import ResolverScaffold.Text.Reader

/-!
# Patterns of file names

A pattern of a path is cut at its slashes.  A component is a plain name, a name
with wildcards, or `**`, which stands for any number of directories.
-/

namespace ResolverScaffold.Glob

open Text (Reader)
open Text.Reader
open ListReader

/-- Some characters: those between two ends. -/
structure CharRange where
  first : Char
  last : Char
  deriving DecidableEq, Repr

def CharRange.contains (r : CharRange) (c : Char) : Bool := r.first ≤ c && c ≤ r.last

inductive Piece where
  | char (c : Char)
  /-- Any one character. -/
  | one
  /-- Any number of characters. -/
  | run
  /-- One character that is in a range, or that is in none. -/
  | among (ranges : List CharRange) (expected : Bool)
  deriving DecidableEq, Repr

namespace Piece

/-- Whether a part that stands for one character stands for this one. -/
def allows (c : Char) : Piece → Bool
  | .char d => c == d
  | .one => true
  | .run => true
  | .among ranges expected => ranges.any (·.contains c) == expected

/-- Whether parts stand for a text. -/
def matchAll : List Piece → List Char → Bool
  | [], text => text.isEmpty
  | .run :: rest, text => (List.range (text.length + 1)).any fun n => matchAll rest (text.drop n)
  | _ :: _, [] => false
  | piece :: rest, c :: text => piece.allows c && matchAll rest text

/-- The ranges that characters in brackets stand for. -/
def rangesOf : List Char → List CharRange
  | a :: '-' :: b :: rest => ⟨a, b⟩ :: rangesOf rest
  | c :: rest => ⟨c, c⟩ :: rangesOf rest
  | [] => []

/-- Characters in brackets; the first one may be a closing bracket. -/
def brackets : Reader Piece := do
  literal "["
  let except ← tryRead (literal "!")
  let first ← satisfy fun _ => true
  let more ← takeWhile (· != ']')
  literal "]"
  return .among (rangesOf (first :: more)) !except

/-- Any number of characters.  Two stars are no part of a name. -/
def star : Reader Piece := do
  literal "*"
  refuses (literal "*")
  return .run

def read : Reader Piece :=
  star <|> brackets <|> (do literal "?"; return .one)
    <|> (do return .char (← satisfy fun c => c != '*' && c != '['))

end Piece

/-- A component of a pattern. -/
inductive Component where
  /-- A plain name. -/
  | name (text : String)
  /-- A name with wildcards. -/
  | wild (pieces : List Piece)
  /-- Any number of directories. -/
  | deep
  deriving DecidableEq, Repr

namespace Component

/-- The characters of parts that are all characters. -/
def plain? : List Piece → Option (List Char)
  | [] => some []
  | .char c :: rest => (plain? rest).map (c :: ·)
  | _ :: _ => none

def ofText? (text : List Char) : Option Component :=
  if text = ['*', '*'] then some .deep
  else
    match readWhile (fun rest => !rest.isEmpty) Piece.read text with
    | none => none
    | some (pieces, _) =>
      match plain? pieces with
      | some chars => some (.name (String.ofList chars))
      | none => some (.wild pieces)

def allows (name : String) : Component → Bool
  | .name text => name == text
  | .wild pieces => Piece.matchAll pieces name.toList
  | .deep => false

end Component

/-- The pattern of a path. -/
structure Pattern where
  /-- It starts at the root. -/
  rooted : Bool
  components : List Component
  /-- It stands for directories only. -/
  directories : Bool
  deriving DecidableEq, Repr

/-- The parts between slashes, without an empty part at the end. -/
def parts (text : List Char) : List (List Char) :=
  let all := Text.splitAt ['/'] text
  if all.getLast? == some [] then all.dropLast else all

/-- The pattern of a text, if it is well formed. -/
def Pattern.ofText? (text : List Char) : Option Pattern := do
  let rooted := Text.startsWith ['/'] text
  let rest := if rooted then text.drop 1 else text
  let components ← (parts rest).mapM Component.ofText?
  return {
    rooted
    components := if rest.isEmpty then [.name ""] else components
    directories := text.getLast? == some '/' }

end ResolverScaffold.Glob
