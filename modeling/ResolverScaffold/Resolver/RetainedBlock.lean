import ResolverScaffold.Text.Lines

/-!
# Retained blocks

A declaration that the schema no longer asks for is kept as a block of comments
between two marks.  `render` writes a block and `scan` finds the blocks of a
source; a block with a line that is no comment, without its closing mark or
without a key is passed over.
-/

namespace ResolverScaffold

/-- A declaration kept in comments. -/
structure RetainedBlock where
  /-- The name of the function. -/
  key : String
  /-- Its text. -/
  declaration : String
  deriving DecidableEq, Repr

namespace RetainedBlock

def beginMark : List Char := "// lambdagen:deprecated ".toList

/-- The mark after the declaration. -/
def endMark : List Char := "// lambdagen:end".toList

def commentLine (line : List Char) : List Char :=
  match line with
  | [] => "//".toList
  | _ => "// ".toList ++ line

def renderLines (key declaration : List Char) : List (List Char) :=
  (beginMark ++ key) :: (Text.lines declaration).map commentLine ++ [endMark]

def renderChars (key declaration : List Char) : List Char :=
  List.intercalate ['\n'] (renderLines key declaration)

def render (key declaration : String) : String :=
  String.ofList (renderChars key.toList declaration.toList)

/-- The content of a comment line of a block, its indent already taken off. -/
def content? (line : List Char) : Option (List Char) :=
  match Text.after? "// ".toList line with
  | some rest => some rest
  | none => if Text.trimEnd line = "//".toList then some [] else none

/-- A block from its key and its lines, last one first. -/
def ofLines (key : List Char) (body : List (List Char)) : RetainedBlock :=
  ⟨String.ofList key, String.ofList (List.intercalate ['\n'] body.reverse)⟩

/-- The blocks in some lines.  `inside` holds the key and the lines, last one first, of a block
whose opening mark has been read. -/
def scanLines : (inside : Option (List Char × List (List Char))) → List (List Char) →
    List RetainedBlock
  | _, [] => []
  | none, line :: rest =>
    match Text.after? beginMark (Text.trimStart line) with
    | some key => scanLines (some (Text.trim key, [])) rest
    | none => scanLines none rest
  | some (key, body), line :: rest =>
    let line := Text.trimStart line
    if Text.trimEnd line = endMark then
      if key.isEmpty then scanLines none rest else ofLines key body :: scanLines none rest
    else
      match content? line with
      | some content => scanLines (some (key, content :: body)) rest
      | none => scanLines none rest

def scanChars (source : List Char) : List RetainedBlock := scanLines none (Text.lines source)

def scan (source : String) : List RetainedBlock := scanChars source.toList

end RetainedBlock

end ResolverScaffold
