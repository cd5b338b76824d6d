import ResolverScaffold.Markup.Tag

/-!
# Nodes of a YAML document
-/

namespace ResolverScaffold.Markup

inductive Node where
  /-- A scalar; a plain one has no quotes and is no block. -/
  | scalar (tag : Option Tag) (text : String) (plain : Bool)
  | sequence (tag : Option Tag) (items : List Node)
  | mapping (tag : Option Tag) (entries : List (Node × Node))
  deriving Repr

def Node.text? : Node → Option String
  | .scalar _ text _ => some text
  | _ => none

end ResolverScaffold.Markup
