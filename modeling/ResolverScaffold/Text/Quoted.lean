import ResolverScaffold.Text.Hidden

/-!
# Quoted text

How messages show a path or a list of patterns: in double quotes, with a
backslash before quotes and backslashes, short forms for the common control
characters and `\u{…}` for every other character that does not show.
-/

namespace ResolverScaffold.Text

/-- Lower-case hexadecimal digits of a number. -/
def hexDigits (n : Nat) : List Char := Nat.toDigits 16 n

/-- One character inside quotes.  A single quote is escaped only where `single` says so. -/
def quoteChar (single : Bool) (c : Char) : List Char :=
  if c = '"' then ['\\', '"']
  else if c = '\\' then ['\\', '\\']
  else if c = '\t' then ['\\', 't']
  else if c = '\n' then ['\\', 'n']
  else if c = '\r' then ['\\', 'r']
  else if c.toNat = 0 then ['\\', '0']
  else if c = '\'' then (if single then ['\\', '\''] else ['\''])
  else if isHidden c then ['\\', 'u', '\x7b'] ++ hexDigits c.toNat ++ ['\x7d']
  else [c]

def quote (single : Bool) (s : String) : String :=
  "\"" ++ String.ofList (s.toList.flatMap (quoteChar single)) ++ "\""

def quotePath (path : String) : String := quote true path

/-- A list of texts in quotes, in brackets. -/
def quoteList (texts : List String) : String :=
  "[" ++ ", ".intercalate (texts.map (quote false)) ++ "]"

end ResolverScaffold.Text
