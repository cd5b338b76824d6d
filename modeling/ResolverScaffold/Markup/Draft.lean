import ResolverScaffold.Markup.Node

/-!
# YAML documents as they are written

A `Draft` is a document whose aliases are still in place.  Anchors have
numbers, and an alias names the number that its anchor had when the alias was
read; it stands for the last node, in the order of the text, that took this
number.  `Draft.expand?` puts the nodes in the place of the aliases.

An alias may stand for a node around it.  What is expanded then never ends, so
the depth of the result is limited, and so is the number of expansions.
-/

namespace ResolverScaffold.Markup

/-- A value of a document as it is written. -/
inductive Draft where
  /-- A scalar; a plain one has no quotes and is no block. -/
  | scalar (anchor : Option Nat) (tag : Option Tag) (text : String) (plain : Bool)
  | sequence (anchor : Option Nat) (tag : Option Tag) (items : List Draft)
  | mapping (anchor : Option Nat) (tag : Option Tag) (entries : List (Draft × Draft))
  /-- An alias for the number of an anchor. -/
  | reference (number : Nat)
  deriving Repr

namespace Draft

/-- A scalar with nothing in it. -/
def empty : Draft := .scalar none none "" true

def anchor? : Draft → Option Nat
  | .scalar anchor _ _ _ | .sequence anchor _ _ | .mapping anchor _ _ => anchor
  | .reference _ => none

mutual

/-- How many marks a document has: one for a scalar or alias, two around what holds others. -/
def size : Draft → Nat
  | .scalar _ _ _ _ | .reference _ => 1
  | .sequence _ _ items => sizeItems items + 2
  | .mapping _ _ entries => sizeEntries entries + 2

/-- How many marks some nodes have. -/
def sizeItems : List Draft → Nat
  | [] => 0
  | item :: rest => item.size + sizeItems rest

/-- How many marks some entries have. -/
def sizeEntries : List (Draft × Draft) → Nat
  | [] => 0
  | (key, value) :: rest => key.size + value.size + sizeEntries rest

end

mutual

/-- A node and all nodes in it, in the order of the text. -/
def all : Draft → List Draft
  | .scalar anchor tag text plain => [.scalar anchor tag text plain]
  | .sequence anchor tag items => .sequence anchor tag items :: allItems items
  | .mapping anchor tag entries => .mapping anchor tag entries :: allEntries entries
  | .reference number => [.reference number]

def allItems : List Draft → List Draft
  | [] => []
  | item :: rest => item.all ++ allItems rest

def allEntries : List (Draft × Draft) → List Draft
  | [] => []
  | (key, value) :: rest => key.all ++ value.all ++ allEntries rest

end

/-- The last node of a document that took a number. -/
def target? (root : Draft) (number : Nat) : Option Draft :=
  root.all.reverse.find? (·.anchor? == some number)

/-- How many expansions a document may have. -/
def maxExpansions (root : Draft) : Nat := 100 * root.size

/-- The node that stands in a place of the document, and how many expansions there were.  An
alias is one expansion more. -/
def resolve (root : Draft) : Draft → StateT Nat Option Draft
  | .reference number => do
    let count ← get
    if root.maxExpansions ≤ count then failure
    set (count + 1)
    root.target? number
  | draft => pure draft

/-- A place of the document with all aliases expanded.  Sequences and mappings may nest only so
deep. -/
def expandFrom (root : Draft) : (depth : Nat) → Draft → StateT Nat Option Node
  | 0, draft => do
    match ← root.resolve draft with
    | .scalar _ tag text plain => return .scalar tag text plain
    | _ => failure
  | depth + 1, draft => do
    match ← root.resolve draft with
    | .scalar _ tag text plain => return .scalar tag text plain
    | .sequence _ tag items => return .sequence tag (← items.mapM (root.expandFrom depth))
    | .mapping _ tag entries =>
      return .mapping tag (← entries.mapM fun (key, value) => do
        return (← root.expandFrom depth key, ← root.expandFrom depth value))
    | .reference _ => failure

/-- How deep a document may nest. -/
def maxDepth : Nat := 128

/-- The document with all aliases expanded. -/
def expand? (root : Draft) : Option Node := (root.expandFrom maxDepth root).run' 0

end Draft

end ResolverScaffold.Markup
