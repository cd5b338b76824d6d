import ResolverScaffold.Text.Case
import ResolverScaffold.Text.Lines

/-!
# Names in generated code

`snakeCase` turns a schema name into lower case with underscores, `identifier`
turns any name into a Rust identifier, and `fieldIdentifier` does both.
`docLines` writes a description as doc comments.
-/

namespace ResolverScaffold.Naming

/-- Whether an upper-case character starts a new word, given its neighbours. -/
def startsWord (before : Option Char) (next : Option Char) : Bool :=
  match before with
  | none => false
  | some p =>
    if Text.isLower p || p.isDigit then true
    else if Text.isUpper p then next.any Text.isLower
    else false

/-- Snake case of the rest of a name.  `before` is the character of the name just read and
`gap` says whether the text written so far ends in an underscore. -/
def snakeFrom (before : Option Char) (gap : Bool) : List Char → List Char
  | [] => []
  | c :: rest =>
    if Text.isUpper c then
      let separator := if startsWord before rest.head? && !gap then ['_'] else []
      separator ++ Text.toLower c ++ snakeFrom (some c) false rest
    else c :: snakeFrom (some c) (c == '_') rest

/-- Lower case, with an underscore where a new word starts. -/
def snakeCase (name : String) : String := String.ofList (snakeFrom none false name.toList)

/-- Words of the Rust language that are written `r#word` as an identifier. -/
def keywords : List String :=
  ["as", "break", "const", "continue", "else", "enum", "extern", "false", "fn", "for", "if",
   "impl", "in", "let", "loop", "match", "mod", "move", "mut", "pub", "ref", "return", "static",
   "struct", "trait", "true", "type", "unsafe", "use", "where", "while", "async", "await", "dyn",
   "abstract", "become", "box", "do", "final", "macro", "override", "priv", "typeof", "unsized",
   "virtual", "yield", "try", "gen"]

/-- Words that are no identifier in any spelling and get an underscore at their end. -/
def reserved : List String := ["self", "Self", "super", "crate", "_"]

/-- Whether a character may stand in an identifier that uses ASCII only. -/
def isIdentChar (c : Char) : Bool := c.isAlphanum || c == '_'

/-- The characters of a name that may stand in an identifier, every other one as an
underscore; never empty and never starting with a digit. -/
def identifierChars (name : List Char) : List Char :=
  match name.map fun c => if isIdentChar c then c else '_' with
  | [] => ['_']
  | c :: rest => if c.isDigit then '_' :: c :: rest else c :: rest

/-- A Rust identifier for any name. -/
def identifier (name : String) : String :=
  let word := String.ofList (identifierChars name.toList)
  if reserved.contains word then word ++ "_"
  else if keywords.contains word then "r#" ++ word
  else word

/-- The identifier of a field or parameter. -/
def fieldIdentifier (name : String) : String := identifier (snakeCase name)

def docLine (line : List Char) : String :=
  match Text.trimEnd line with
  | [] => "///"
  | text => "/// " ++ String.ofList text

/-- A description as doc comments, one for each line; a blank one has none. -/
def docLines (description : Option String) : List String :=
  match description with
  | none => []
  | some text => (Text.lines (Text.trim text.toList)).map docLine

end ResolverScaffold.Naming
