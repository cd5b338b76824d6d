import ResolverScaffold.Text.Bytes
import ResolverScaffold.Text.Lines

/-!
# Spans of functions

Where a function and its body stand in a file, in bytes.  `offset?` turns a
line and a column into an offset, and `leadingCommentsStart?` finds where the
comments directly above a declaration begin.
-/

namespace ResolverScaffold

/-- A position in a file. -/
structure Position where
  file : String
  /-- Bytes from the start of the file. -/
  offset : Nat
  deriving DecidableEq, Repr

structure Span where
  start : Position
  stop : Position
  deriving DecidableEq, Repr

def Span.within (file : String) (start stop : Nat) : Span := ⟨⟨file, start⟩, ⟨file, stop⟩⟩

/-- A function of a file. -/
structure FunctionDecl where
  name : String
  /-- The whole function with its comments. -/
  declaration : Span
  /-- What stands between the braces. -/
  body : Span
  deriving DecidableEq, Repr

namespace Text

/-- The offsets behind the line feeds of a text that stands so many bytes after the start. -/
def feedEnds (offset : Nat) : List Char → List Nat
  | [] => []
  | c :: rest =>
    if c = '\n' then (offset + c.utf8Size) :: feedEnds (offset + c.utf8Size) rest
    else feedEnds (offset + c.utf8Size) rest

def lineStarts (text : List Char) : List Nat := 0 :: feedEnds 0 text

/-- The offset of a line, counted from one, and a column, counted in characters from zero. -/
def offset? (text : List Char) (line column : Nat) : Option Nat := do
  let start ← if line = 0 then none else (lineStarts text)[line - 1]?
  let rest ← dropBytes? start text
  if column ≤ rest.length then some (start + byteLength (rest.take column)) else none

/-- Whether a line is a comment that belongs to the declaration below it: no doc comment and
no mark of a retained block. -/
def isPlainComment (line : List Char) : Bool :=
  let line := trim line
  startsWith "//".toList line && !startsWith "///".toList line && !startsWith "//!".toList line
    && !startsWith "// lambdagen:".toList line

/-- Where the line begins in which a text ends. -/
def lastLineStart (text : List Char) : Nat :=
  byteLength (text.reverse.dropWhile (· ≠ '\n')).reverse

theorem lastLineStart_le (text : List Char) : lastLineStart text ≤ byteLength text := by
  have hSplit : (text.reverse.dropWhile (· ≠ '\n')).reverse
      ++ (text.reverse.takeWhile (· ≠ '\n')).reverse = text := by
    rw [← List.reverse_append, List.takeWhile_append_dropWhile, List.reverse_reverse]
  have hLength := congrArg byteLength hSplit
  rw [byteLength_append] at hLength
  rw [lastLineStart]
  omega

/-- Where the plain comment lines begin that stand directly above the line that begins at an
offset.  None if a cut does not stand between characters. -/
def commentsStart? (text : List Char) (line : Nat) : Option Nat :=
  if line = 0 then some 0
  else
    match _hBefore : takeBytes? (line - 1) text with
    | none => none
    | some before =>
      match slice? text (lastLineStart before) (line - 1) with
      | none => none
      | some above =>
        if isPlainComment above then commentsStart? text (lastLineStart before) else some line
termination_by line
decreasing_by
  have hLength := byteLength_of_takeBytes? _hBefore
  have hLe := lastLineStart_le before
  omega

/-- Where a declaration with its comments begins: at the topmost of the plain comment lines
directly above it, if nothing else stands on its line. -/
def leadingCommentsStart? (text : List Char) (start : Nat) : Option Nat := do
  let line := lastLineStart (← takeBytes? start text)
  if isBlankText (← slice? text line start) then
    let first ← commentsStart? text line
    return if first = line then start else first
  else return start

end Text

end ResolverScaffold
