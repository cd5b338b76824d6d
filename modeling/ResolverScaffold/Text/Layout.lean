/-!
# Laying out code

Generated code is put together from lines.  `block` puts lines between braces
and indents them.
-/

namespace ResolverScaffold.Text

/-- A line one level further in; an empty line stays empty. -/
def indent (line : String) : String := if line.isEmpty then line else "    " ++ line

/-- Lines between braces after a head. -/
def block (head : String) (body : List String) : List String :=
  (head ++ " \x7b") :: body.map indent ++ ["\x7d"]

/-- A text from its lines, each of them ended. -/
def ofLines (lines : List String) : String := String.join (lines.map (· ++ "\n"))

def inQuotes (text : String) : String := "\"" ++ text ++ "\""

def commaList (texts : List String) : String := ", ".intercalate texts

end ResolverScaffold.Text
