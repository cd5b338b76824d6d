import ResolverScaffold.Text.Ranges

/-!
# Blank characters

The characters with the Unicode property White_Space.  The byte order mark and
the separators U+001C to U+001F are not among them.
-/

namespace ResolverScaffold.Text

/-- The ranges of White_Space. -/
def blankRanges : List (Nat × Nat) :=
  [(9, 13), (32, 32), (133, 133), (160, 160), (5760, 5760), (8192, 8202), (8232, 8233),
   (8239, 8239), (8287, 8287), (12288, 12288)]

/-- Whether a character has the property White_Space. -/
def isBlank (c : Char) : Bool := inRanges blankRanges c.toNat

example : isBlank (Char.ofNat 0x1F) = false := by decide

example : isBlank (Char.ofNat 0xFEFF) = false := by decide

end ResolverScaffold.Text
