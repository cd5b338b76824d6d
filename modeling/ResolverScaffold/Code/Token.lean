import ResolverScaffold.Code.Literal

/-!
# Tokens of Rust

A source is cut into words, marks, literals and brackets.  Comments and blanks
stand between tokens, except doc comments, which are tokens: they count as
attributes.  Every token knows where it stands.
-/

namespace ResolverScaffold.Code

open Text (Reader)
open Text.Reader
open ListReader

/-- A place in a text: a line, counted from one, and a column, counted in characters from
zero. -/
structure Place where
  line : Nat
  column : Nat
  deriving DecidableEq, Repr

namespace Place

def start : Place := ⟨1, 0⟩

def next (p : Place) (c : Char) : Place :=
  if c = '\n' then ⟨p.line + 1, 0⟩ else ⟨p.line, p.column + 1⟩

def after (p : Place) (text : List Char) : Place := text.foldl next p

end Place

/-- A kind of brackets. -/
inductive Delimiter where
  | paren
  | bracket
  | brace
  deriving DecidableEq, Repr

/-- A token. -/
inductive Token where
  /-- A word.  One that starts with `r#` is never a keyword. -/
  | word (name : String)
  /-- A lifetime or label. -/
  | lifetime
  /-- A punctuation mark, and whether another one follows at once. -/
  | mark (c : Char) (joint : Bool)
  /-- A quoted text of characters. -/
  | text
  /-- A number as it is written. -/
  | number (text : String)
  /-- Another literal. -/
  | literal
  /-- A single quote that starts no lifetime. -/
  | quote
  /-- A doc comment, for what it stands in or for what follows it. -/
  | doc (inner : Bool)
  | opening (delimiter : Delimiter)
  | closing (delimiter : Delimiter)
  deriving DecidableEq, Repr

/-- A token with where it starts and stops. -/
structure Located where
  token : Token
  start : Place
  stop : Place
  deriving DecidableEq, Repr

/-! ### Comments -/

/-- Whether a character stands between tokens: blanks and the two marks of direction. -/
def isGap (c : Char) : Bool := Text.isBlank c || c == '\u200e' || c == '\u200f'

/-- What follows a block comment in which so many are open.  Comments nest. -/
def afterBlock : (depth : Nat) → List Char → Option (List Char)
  | _, [] => none
  | depth, '/' :: '*' :: rest => afterBlock (depth + 1) rest
  | depth, '*' :: '/' :: rest => if depth ≤ 1 then some rest else afterBlock (depth - 1) rest
  | depth, _ :: rest => afterBlock depth rest

/-- A block comment: its text with its marks. -/
def blockComment : Reader (List Char) := fun text =>
  if Text.startsWith "/*".toList text then
    (afterBlock 0 text).map fun rest => (text.take (text.length - rest.length), rest)
  else none

def startsWithAny (beginnings : List String) (text : List Char) : Bool :=
  beginnings.any fun b => Text.startsWith b.toList text

def startsLineComment (text : List Char) : Bool :=
  startsWithAny ["////"] text
    || (startsWithAny ["//"] text && !startsWithAny ["///", "//!"] text)

def startsBlockComment (text : List Char) : Bool :=
  startsWithAny ["/**/", "/***"] text
    || (startsWithAny ["/*"] text && !startsWithAny ["/**", "/*!"] text)

/-- A comment that is no doc comment, or a blank. -/
def gapPiece : Reader Unit := do
  if ← sees startsLineComment then
    let _ ← takeWhile (· != '\n')
  else if ← sees startsBlockComment then
    let _ ← blockComment
  else
    let _ ← satisfy isGap

/-- Pass over what may stand between tokens. -/
def gap : Reader Unit := do
  let _ ← many gapPiece

/-- Whether every carriage return has its line feed. -/
def returnsFollowed : List Char → Bool
  | [] => true
  | '\r' :: '\n' :: rest => returnsFollowed rest
  | c :: rest => c != '\r' && returnsFollowed rest

/-- The line of a doc comment, without the line end.  A carriage return in it is refused. -/
def docLine : Reader Unit := do
  let line ← takeWhile (· != '\n')
  let line := if (← more) && line.getLast? == some '\r' then line.dropLast else line
  if line.contains '\r' then failure else pure ()

/-- The block of a doc comment, in which every carriage return has its line feed. -/
def docBlock : Reader Unit := do
  let block ← blockComment
  let content := (block.drop 3).take (block.length - 5)
  if returnsFollowed content then pure () else failure

def docComment : Reader Token := do
  if ← sees (startsWithAny ["//!"]) then docLine; return .doc true
  else if ← sees (startsWithAny ["/*!"]) then docBlock; return .doc true
  else if ← sees (startsWithAny ["///"]) then docLine; return .doc false
  else if ← sees (startsWithAny ["/**"]) then docBlock; return .doc false
  else failure

/-! ### Words and marks -/

/-- The words that have no raw form. -/
def plainOnly : List String := ["_", "super", "self", "Self", "crate"]

def rawOrPlainWord : Reader String := do
  if ← tryRead (literal "r#") then
    let name ← plainWord
    if plainOnly.contains name then failure else return "r#" ++ name
  else plainWord

/-- The beginnings of literals that are no words. -/
def literalStarts : List String :=
  ["r\"", "r#\"", "r##", "b\"", "b'", "br\"", "br#", "c\"", "cr\"", "cr#"]

def word : Reader Token := do
  if ← sees (startsWithAny literalStarts) then failure
  else return .word (← rawOrPlainWord)

def marks : List Char := "~!@#$%^&*-=+|;:,<.>/?'".toList

/-- Whether a punctuation mark starts here: a mark that does not start a comment. -/
def startsPunctuation (text : List Char) : Bool :=
  text.head?.any marks.contains && !startsWithAny ["//", "/*"] text

/-- The word after a single quote, and no quote after it. -/
def lifetimeName : Reader Unit := do
  let name ← rawOrPlainWord
  let isRaw := Text.startsWith "r#".toList name.toList
  if ← sees fun text => startsWithAny ["'"] text || (!isRaw && startsWithAny ["#"] text) then
    failure

/-- A lifetime: a single quote and its name.  A quote before a literal that starts like a name
stands alone. -/
def lifetime : Reader Token := do
  literal "'"
  if ← sees (startsWithAny literalStarts) then
    if ← sees fun text => (lifetimeName text).isSome then return .quote else failure
  else
    lifetimeName
    return .lifetime

def punctuation : Reader Token := do
  if ← sees startsPunctuation then
    let c ← satisfy (· != '\'')
    return .mark c (← sees startsPunctuation)
  else failure

def bracket : Reader Token := do
  match ← satisfy fun _ => true with
  | '(' => return .opening .paren
  | '[' => return .opening .bracket
  | '\x7b' => return .opening .brace
  | ')' => return .closing .paren
  | ']' => return .closing .bracket
  | '\x7d' => return .closing .brace
  | _ => failure

/-- The mark that stands for a value that could not be written.  It is a literal, for all its
parentheses. -/
def errorMark : Reader Unit := literal "(/*ERROR*/)"

def numberToken : Reader Token := fun text =>
  (number text).map fun (_, rest) =>
    (.number (String.ofList (text.take (text.length - rest.length))), rest)

def token : Reader Token :=
  docComment
    <|> (do errorMark; return .literal)
    <|> bracket
    <|> (do string; return .text)
    <|> (do otherString <|> character; return .literal)
    <|> numberToken <|> lifetime <|> punctuation <|> word

/-! ### Texts -/

def tokensFrom (place : Place) (text : List Char) : Option (List Located) :=
  let start := (ListReader.repeated gapPiece text).2
  if start.isEmpty then some []
  else
    match token start with
    | none => none
    | some (t, rest) =>
      if rest.length < text.length then
        let begins := place.after (text.take (text.length - start.length))
        let ends := begins.after (start.take (start.length - rest.length))
        match tokensFrom ends rest with
        | none => none
        | some more => some (⟨t, begins, ends⟩ :: more)
      else none
termination_by text.length

/-- The byte order mark. -/
def orderMark : Char := '\ufeff'

/-- The tokens of a text, which may start with a byte order mark. -/
def tokens? (text : List Char) : Option (List Located) :=
  match text with
  | [] => some []
  | c :: rest =>
    if c = orderMark then tokensFrom (Place.start.next c) rest else tokensFrom Place.start text

end ResolverScaffold.Code
