import ResolverScaffold.Code.Grammar

/-!
# Attributes of Rust

An attribute stands before what it is about, or inside of it with an
exclamation mark.  Doc comments are attributes.
-/

namespace ResolverScaffold.Code

open ListReader

/-- Whether an attribute comes next for what it stands in. -/
def seesInner (nodes : List Node) : Bool :=
  match nodes with
  | .leaf (.doc true) _ :: _ => true
  | _ => seesMark "#" nodes && seesMark "!" (nodes.drop 1)

def seesAttribute (nodes : List Node) : Bool :=
  match nodes with
  | .leaf (.doc _) _ :: _ => true
  | _ => seesMark "#" nodes

namespace Parts

variable (parts : Parts)

/-- What stands in the brackets of an attribute: a path, and perhaps brackets or a value. -/
def attributeContent : Grammar Unit := do
  if ← sees (seesWord ["unsafe"]) then skip else plainPath
  if ← sees seesAnyGroup then skip
  else if ← mark? "=" then
    if ← sees fun nodes => seesMark "#" nodes && seesGroup .bracket (nodes.drop 1) then failure
    else parts.expr true

/-- An attribute for what it stands in. -/
def innerAttribute : Grammar Unit := fun nodes =>
  match nodes with
  | .leaf (.doc true) _ :: rest => some ((), rest)
  | nodes =>
    (do mark "#"; mark "!"; inGroup .bracket parts.attributeContent : Grammar Unit) nodes

/-- An attribute for what follows it. -/
def outerAttribute : Grammar Unit := fun nodes =>
  match nodes with
  | .leaf (.doc false) _ :: rest => some ((), rest)
  | nodes => (do mark "#"; inGroup .bracket parts.attributeContent : Grammar Unit) nodes

/-- Attributes for what they stand in. -/
def innerAttributes : Grammar Unit := do
  let _ ← readWhile seesInner parts.innerAttribute

/-- Attributes for what follows them. -/
def outerAttributes : Grammar Unit := do
  let _ ← readWhile seesAttribute parts.outerAttribute

end Parts

end ResolverScaffold.Code
