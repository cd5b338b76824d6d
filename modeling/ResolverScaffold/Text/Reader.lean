import ResolverScaffold.ListReader
import ResolverScaffold.Text.Lines

/-!
# Readers of texts

A `Reader α` takes a value off the front of a text or refuses it.
-/

namespace ResolverScaffold.Text

/-- Takes a value off the front of a text. -/
abbrev Reader := ListReader Char

namespace Reader

def satisfy (p : Char → Bool) : Reader Char := fun text =>
  match text with
  | [] => none
  | c :: rest => if p c then some (c, rest) else none

def literal (s : String) : Reader Unit := fun text =>
  (after? s.toList text).map fun rest => ((), rest)

/-- The longest beginning whose characters all satisfy `p`. -/
def takeWhile (p : Char → Bool) : Reader (List Char) := fun text =>
  some (text.takeWhile p, text.dropWhile p)

/-- As `takeWhile`, at least one character. -/
def takeWhile1 (p : Char → Bool) : Reader (List Char) := do
  let c ← satisfy p
  let cs ← takeWhile p
  return c :: cs

end Reader

end ResolverScaffold.Text
