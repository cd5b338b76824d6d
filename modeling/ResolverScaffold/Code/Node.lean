import ResolverScaffold.Code.Token

/-!
# Nested tokens

The tokens between two brackets are one node, so brackets that do not match
refuse a source before anything else is read.
-/

namespace ResolverScaffold.Code

/-- A token, or what stands between two brackets. -/
inductive Node where
  | leaf (token : Token) (start : Place)
  /-- Brackets: where the first starts and stops, and the second. -/
  | group (delimiter : Delimiter) (start opened closed stop : Place) (inner : List Node)

namespace Node

def start : Node → Place
  | .leaf _ start => start
  | .group _ start .. => start

mutual

/-- How many nodes a node has, with itself. -/
def size : Node → Nat
  | .leaf .. => 1
  | .group _ _ _ _ _ inner => sizes inner + 1

/-- How many nodes there are in a list of nodes, at all depths. -/
def sizes : List Node → Nat
  | [] => 0
  | node :: rest => node.size + sizes rest

end

/-- Brackets that are still open, with what came before them in reverse. -/
structure Frame where
  delimiter : Delimiter
  start : Place
  opened : Place
  before : List Node

/-- Nest tokens inside open brackets, where `inner` came after the last of them, in reverse. -/
def nest : List Located → (inner : List Node) → List Frame → Option (List Node)
  | [], inner, [] => some inner.reverse
  | [], _, _ :: _ => none
  | t :: rest, inner, frames =>
    match t.token with
    | .opening delimiter => nest rest [] (⟨delimiter, t.start, t.stop, inner⟩ :: frames)
    | .closing delimiter =>
      match frames with
      | [] => none
      | frame :: outer =>
        if frame.delimiter = delimiter then
          let group := .group delimiter frame.start frame.opened t.start t.stop inner.reverse
          nest rest (group :: frame.before) outer
        else none
    | token => nest rest (.leaf token t.start :: inner) frames

def ofText? (text : List Char) : Option (List Node) := do nest (← tokens? text) [] []

end Node

end ResolverScaffold.Code
