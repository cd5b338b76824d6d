import ResolverScaffold.Dict
import ResolverScaffold.Markup.Draft
import ResolverScaffold.Markup.Scanner

/-!
# YAML documents

`Node.read?` reads a text that holds one document: its tokens make a draft, and
the draft is expanded.
-/

namespace ResolverScaffold.Markup

/-- What is known while nodes are read. -/
structure Reading where
  tokens : List Token
  /-- The numbers of anchors. -/
  anchors : Dict String Nat
  /-- What handles of tags stand for. -/
  handles : List (String × Tag)

/-- Reads from the tokens of a document, or refuses. -/
abbrev Grammar := StateT Reading Option

namespace Grammar

def peek : Grammar Token := do return (← get).tokens.headD .streamEnd

/-- Pass over the next token. -/
def advance : Grammar Unit := modify fun r => { r with tokens := r.tokens.drop 1 }

/-- Whether the next token is the given one; it is then passed over. -/
def accept (t : Token) : Grammar Bool := do
  if (← peek) == t then
    advance
    return true
  else return false

/-- Whether the next token is one of the given ones. -/
def ahead (ts : List Token) : Grammar Bool := do return ts.contains (← peek)

def anchor? : Grammar (Option String) := do
  match ← peek with
  | .anchor name =>
    advance
    return some name
  | _ => return none

/-- A tag before a node, with its handle resolved. -/
def tag? : Grammar (Option Tag) := do
  match ← peek with
  | .tag handle suffix =>
    advance
    if handle.isEmpty then return some suffix
    else
      match (← get).handles.find? (·.1 == handle) with
      | some (_, beginning) => return some (beginning ++ suffix)
      | none => failure
  | _ => return none

def properties : Grammar (Option String × Option Tag) := do
  match ← anchor? with
  | some anchor => return (some anchor, ← tag?)
  | none =>
    match ← tag? with
    | some tag => return (← anchor?, some tag)
    | none => return (none, none)

/-- The number of an anchor: how many names there were before it.  A name that is used again
gets a new number, which need not be a free one. -/
def number? (anchor : Option String) : Grammar (Option Nat) := do
  match anchor with
  | none => return none
  | some name =>
    let number := (← get).anchors.size
    modify fun r => { r with anchors := r.anchors.insert name number }
    return some number

/-- The alias of a name that is known. -/
def reference (name : String) : Grammar Draft := do
  match (← get).anchors.get? name with
  | some number => return .reference number
  | none => failure

mutual

/-- A node.  Blocks can only stand outside of brackets, and entries without an indent of their
own only as a key or value of a block. -/
def node (inBlock indentless : Bool) : (depth : Nat) → Grammar Draft
  | 0 => failure
  | depth + 1 => do
    match ← peek with
    | .alias name =>
      advance
      reference name
    | _ =>
      let (anchor, tag) ← properties
      content inBlock indentless (← number? anchor) tag depth

/-- A node after its anchor and tag. -/
def content (inBlock indentless : Bool) (anchor : Option Nat) (tag : Option Tag) :
    (depth : Nat) → Grammar Draft
  | 0 => failure
  | depth + 1 => do
    match ← peek with
    | .blockEntry =>
      if indentless then return .sequence anchor tag (← indentlessEntries depth)
      else if anchor.isSome || tag.isSome then return .scalar anchor tag "" true
      else failure
    | .scalar text plain =>
      advance
      return .scalar anchor tag text plain
    | .flowSequenceStart =>
      advance
      return .sequence anchor tag (← flowItems true depth)
    | .flowMappingStart =>
      advance
      return .mapping anchor tag (← flowEntries true depth)
    | .blockSequenceStart =>
      if inBlock then
        advance
        return .sequence anchor tag (← blockItems depth)
      else if anchor.isSome || tag.isSome then return .scalar anchor tag "" true
      else failure
    | .blockMappingStart =>
      if inBlock then
        advance
        return .mapping anchor tag (← blockEntries depth)
      else if anchor.isSome || tag.isSome then return .scalar anchor tag "" true
      else failure
    | _ => if anchor.isSome || tag.isSome then return .scalar anchor tag "" true else failure

/-- The entries of a block sequence and its end. -/
def blockItems : (depth : Nat) → Grammar (List Draft)
  | 0 => failure
  | depth + 1 => do
    if ← accept .blockEntry then
      let item ← if ← ahead [.blockEntry, .blockEnd] then pure .empty else node true false depth
      return item :: (← blockItems depth)
    else if ← accept .blockEnd then return []
    else failure

/-- The entries of a block sequence without an indent of its own. -/
def indentlessEntries : (depth : Nat) → Grammar (List Draft)
  | 0 => failure
  | depth + 1 => do
    if ← accept .blockEntry then
      let item ← if ← ahead [.blockEntry, .key, .value, .blockEnd] then pure .empty
        else node true false depth
      return item :: (← indentlessEntries depth)
    else return []

/-- The entries of a block mapping and its end. -/
def blockEntries : (depth : Nat) → Grammar (List (Draft × Draft))
  | 0 => failure
  | depth + 1 => do
    if ← accept .key then
      let key ← if ← ahead [.key, .value, .blockEnd] then pure .empty else node true true depth
      let value ←
        if ← accept .value then
          if ← ahead [.key, .value, .blockEnd] then pure .empty else node true true depth
        else pure .empty
      return (key, value) :: (← blockEntries depth)
    else if ← accept .blockEnd then return []
    else failure

/-- The items of a sequence in brackets and its end. -/
def flowItems (first : Bool) : (depth : Nat) → Grammar (List Draft)
  | 0 => failure
  | depth + 1 => do
    if ← accept .flowSequenceEnd then return []
    else if !first && !(← accept .flowEntry) then failure
    else if ← accept .key then
      let entry ← flowPair depth
      return .mapping none none [entry] :: (← flowItems false depth)
    else if ← accept .flowSequenceEnd then return []
    else
      let item ← node false false depth
      return item :: (← flowItems false depth)

/-- A key with a value that is an item of a sequence in brackets.  Where the key is missing the
token in its place is passed over. -/
def flowPair : (depth : Nat) → Grammar (Draft × Draft)
  | 0 => failure
  | depth + 1 => do
    let key ←
      if ← ahead [.value, .flowEntry, .flowSequenceEnd] then
        advance
        pure .empty
      else node false false depth
    let value ←
      if ← accept .value then
        if ← ahead [.flowEntry, .flowSequenceEnd] then pure .empty else node false false depth
      else pure .empty
    return (key, value)

/-- The entries of a mapping in brackets and its end. -/
def flowEntries (first : Bool) : (depth : Nat) → Grammar (List (Draft × Draft))
  | 0 => failure
  | depth + 1 => do
    if ← accept .flowMappingEnd then return []
    else if !first && !(← accept .flowEntry) then failure
    else if ← accept .key then
      let key ← if ← ahead [.value, .flowEntry, .flowMappingEnd] then pure .empty
        else node false false depth
      let value ←
        if ← accept .value then
          if ← ahead [.flowEntry, .flowMappingEnd] then pure .empty else node false false depth
        else pure .empty
      return (key, value) :: (← flowEntries false depth)
    else if ← accept .flowMappingEnd then return []
    else
      let key ← node false false depth
      return (key, .empty) :: (← flowEntries false depth)

end

/-- The directives before a document: at most one version, which has to be known, and handles
that are each named once. -/
def directives : (steps : Nat) → (version : Bool) → Grammar Unit
  | 0, _ => failure
  | steps + 1, version => do
    match ← peek with
    | .versionDirective major minor =>
      if version || major ≠ 1 || (minor ≠ 1 && minor ≠ 2) then failure
      advance
      directives steps true
    | .tagDirective handle beginning =>
      if (← get).handles.any (·.1 == handle) then failure
      advance
      modify fun r => { r with handles := r.handles ++ [(handle, beginning)] }
      directives steps version
    | _ => pure ()

/-- The handles that need no directive. -/
def usualHandles : List (String × Tag) :=
  [("!", .ofText "!"), ("!!", .ofText "tag:yaml.org,2002:")]

/-- The usual handles after those that directives name. -/
def addUsualHandles : Grammar Unit := modify fun r =>
  { r with handles := r.handles ++ usualHandles }

/-- Pass over marks that end a document. -/
def documentEnds : (steps : Nat) → Grammar Unit
  | 0 => pure ()
  | steps + 1 => do if ← accept .documentEnd then documentEnds steps

def document : Grammar Draft := do
  let size := (← get).tokens.length
  let depth := 4 * size + 8
  let explicit ← match ← peek with
    | .versionDirective _ _ | .tagDirective _ _ | .documentStart => pure true
    | .streamEnd => failure
    | _ => pure false
  let root ←
    if explicit then
      directives (size + 1) false
      addUsualHandles
      if !(← accept .documentStart) then failure
      match ← peek with
      | .versionDirective _ _ | .tagDirective _ _ | .documentStart | .documentEnd | .streamEnd =>
        pure Draft.empty
      | _ => node true false depth
    else
      addUsualHandles
      node true false depth
  documentEnds (size + 1)
  if (← peek) == .streamEnd then return root else failure

end Grammar

/-- The document of a text that holds exactly one. -/
def Node.read? (text : String) : Option Node := do
  let tokens ← Token.scanAll? text.toList
  let (root, _) ← Grammar.document ⟨tokens, .empty, []⟩
  root.expand?

end ResolverScaffold.Markup
