import ResolverScaffold.Code.Node

/-!
# Reading nodes

A `Grammar α` takes a value off the front of a list of nodes or refuses it.
Here are the conditions on what comes next, the readers of single words and
marks, and what items of all kinds share: plain paths and visibility.

Types, patterns, expressions and bounds nest in each other.  The forms of each
take the readers of all four as `Parts`.
-/

namespace ResolverScaffold.Code

open ListReader

/-- Takes a value off the front of a list of nodes. -/
abbrev Grammar := ListReader Node

/-! ### What comes next -/

/-- Words that no name can be. -/
def reserved : List String :=
  ["_", "abstract", "as", "async", "await", "become", "box", "break", "const", "continue",
   "crate", "do", "dyn", "else", "enum", "extern", "false", "final", "fn", "for", "if", "impl",
   "in", "let", "loop", "macro", "match", "mod", "move", "mut", "override", "priv", "pub", "ref",
   "return", "Self", "self", "static", "struct", "super", "trait", "true", "try", "type",
   "typeof", "unsafe", "unsized", "use", "virtual", "where", "while", "yield"]

def nextWord? : List Node → Option String
  | .leaf (.word name) _ :: _ => some name
  | _ => none

/-- Whether one of the given words comes next. -/
def seesWord (names : List String) (nodes : List Node) : Bool :=
  (nextWord? nodes).any names.contains

def seesName (nodes : List Node) : Bool := (nextWord? nodes).any fun w => !reserved.contains w

/-- What follows a punctuation mark of one or more characters; they stand together. -/
def afterMark? : List Char → List Node → Option (List Node)
  | [], nodes => some nodes
  | [c], .leaf (.mark d _) _ :: rest => if c = d then some rest else none
  | c :: more, .leaf (.mark d joint) _ :: rest =>
    if c = d && joint then afterMark? more rest else none
  | _ :: _, _ => none

/-- Whether a punctuation mark comes next; more marks may stand with it. -/
def seesMark (s : String) (nodes : List Node) : Bool := (afterMark? s.toList nodes).isSome

/-- Whether one of several punctuation marks comes next. -/
def seesAnyMark (marks : List String) (nodes : List Node) : Bool :=
  marks.any fun s => seesMark s nodes

/-- Whether brackets of a kind come next. -/
def seesGroup (delimiter : Delimiter) : List Node → Bool
  | .group d .. :: _ => d = delimiter
  | _ => false

/-- Whether brackets of any kind come next. -/
def seesAnyGroup : List Node → Bool
  | .group .. :: _ => true
  | _ => false

def seesLifetime : List Node → Bool
  | .leaf .lifetime _ :: _ => true
  | _ => false

/-- Whether a literal comes next: with a minus only a number. -/
def seesLiteral : List Node → Bool
  | .leaf .text _ :: _ => true
  | .leaf (.number _) _ :: _ => true
  | .leaf .literal _ :: _ => true
  | .leaf (.word name) _ :: _ => name == "true" || name == "false"
  | .leaf (.mark '-' _) _ :: .leaf (.number _) _ :: _ => true
  | _ => false

/-- Whether one of the words comes next that can start a path in place of a name. -/
def seesPathWord : List Node → Bool := seesWord ["super", "self", "Self", "crate"]

/-- Whether a colon comes next that is no double colon. -/
def seesColon (nodes : List Node) : Bool := seesMark ":" nodes && !seesMark "::" nodes

/-! ### Words, marks and brackets -/

def keyword (name : String) : Grammar Unit := do
  if ← sees (seesWord [name]) then skip else failure

/-- A keyword that may be absent, and whether it is there. -/
def keyword? (name : String) : Grammar Bool := tryRead (keyword name)

def anyWord : Grammar String := do
  match nextWord? (← get) with
  | some name => skip; return name
  | none => failure

def name : Grammar String := do
  if ← sees seesName then anyWord else failure

/-- A name or the underscore. -/
def nameOrBlank : Grammar Unit := do
  if ← sees (seesWord ["_"]) then skip
  else
    let _ ← name

def mark (s : String) : Grammar Unit := fun nodes =>
  (afterMark? s.toList nodes).map fun rest => ((), rest)

/-- A punctuation mark that may be absent, and whether it is there. -/
def mark? (s : String) : Grammar Bool := tryRead (mark s)

def aLifetime : Grammar Unit := do
  if ← sees seesLifetime then skip else failure

def aLiteral : Grammar Unit := do
  if ← sees seesLiteral then
    let _ ← mark? "-"
    skip
  else failure

/-- Brackets of a kind, read to their end with `p`. -/
def inGroup {α : Type} (delimiter : Delimiter) (p : Grammar α) : Grammar α := fun nodes =>
  match nodes with
  | .group d _ _ _ _ inner :: rest =>
    if d = delimiter then
      match p inner with
      | some (a, []) => some (a, rest)
      | _ => none
    else none
  | _ => none

/-- Items with commas between them up to the end; a comma may stand at the end. -/
def commaItems (p : Grammar Unit) : Grammar Unit := do
  let _ ← readWhile (fun nodes => !nodes.isEmpty) do
    p
    if ← more then mark ","

/-- Items with commas between them up to a closing angle; a comma may stand at the end. -/
def angleItems (p : Grammar Unit) : Grammar Unit := do
  mark "<"
  let _ ← readWhile (fun nodes => !seesMark ">" nodes) do
    p
    if !(← sees (seesMark ">")) then mark ","
  mark ">"

/-- Items with a mark between them; the mark may stand at the end, before what `stop` allows,
but never twice. -/
def separatedItems (separator : String) (stop : List Node → Bool) (p : Grammar Unit) :
    Grammar Unit := do
  let item : Grammar Unit := do
    if !(← sees stop) then p
    else if ← sees (seesMark separator) then failure
  item
  let _ ← readWhile (seesMark separator) do
    mark separator
    item

/-! ### Paths and visibility -/

def plainSegment : Grammar Unit := do
  if ← sees fun nodes => seesName nodes || seesPathWord nodes then skip else failure

/-- A path of words only. -/
def plainPath : Grammar Unit := do
  let _ ← mark? "::"
  plainSegment
  let _ ← readWhile (seesMark "::") do
    mark "::"
    plainSegment

/-- How far a visibility reaches. -/
def visibilityScope : Grammar Unit := do
  if ← keyword? "in" then plainPath
  else if ← sees (seesWord ["crate", "self", "super"]) then skip
  else failure

/-- A visibility that may be absent, and whether it is there. -/
def visibility : Grammar Bool := do
  if ← keyword? "pub" then
    if ← sees fun nodes =>
        match nodes with
        | .group .paren _ _ _ _ inner :: _ => seesWord ["in"] inner
        | _ => false
    then inGroup .paren visibilityScope
    else
      let _ ← tryRead (inGroup .paren visibilityScope)
    return true
  else return false

/-- Brackets of any kind with anything in them; the answer says whether they are braces. -/
def anyGroup : Grammar Bool := do
  let braces ← sees (seesGroup .brace)
  if ← sees seesAnyGroup then skip else failure
  return braces

/-- Braces with anything in them. -/
def block : Grammar Unit := do
  if ← sees (seesGroup .brace) then skip else failure

/-- Whether a form of the compiler's own comes next. -/
def seesBuiltin (nodes : List Node) : Bool :=
  seesWord ["builtin"] nodes && seesMark "#" (nodes.drop 1)

/-- A form of the compiler's own: its name and what it is about. -/
def builtinForm : Grammar Unit := do
  keyword "builtin"
  mark "#"
  let _ ← name
  if ← sees (seesGroup .paren) then skip else failure

/-! ### Parts of larger forms -/

/-- What a type is, as far as it decides how to read on. -/
inductive TypeShape where
  /-- A path of one word, perhaps with arguments in angles. -/
  | name
  /-- Another path. -/
  | path
  /-- A single bound. -/
  | bound
  | other
  deriving DecidableEq, Repr

/-- What a pattern is, as far as it decides how to read on. -/
inductive PatternShape where
  /-- A range that has no lower or no upper end. -/
  | openRange
  | other
  deriving DecidableEq, Repr

/-- What a bound is, as far as it decides how to read on. -/
inductive BoundShape where
  | byTrait
  | other
  deriving DecidableEq, Repr

/-- What a bound may be apart from a lifetime or a trait. -/
structure BoundRules where
  /-- The names that a type captures. -/
  captures : Bool
  /-- A trait with constant functions. -/
  constants : Bool
  deriving DecidableEq, Repr

namespace BoundRules

/-- Lifetimes and traits only. -/
def plain : BoundRules := ⟨false, false⟩

/-- Constant traits too. -/
def withConstants : BoundRules := ⟨false, true⟩

def all : BoundRules := ⟨true, true⟩

end BoundRules

/-- The readers of what nests. -/
structure Parts where
  /-- A type; the condition says whether bounds may be added with a plus. -/
  type : (plus : Bool) → Grammar TypeShape
  bound : BoundRules → Grammar BoundShape
  pattern : Grammar PatternShape
  /-- An expression; the condition says whether braces after a path belong to it. -/
  expr : (braces : Bool) → Grammar Unit

namespace Parts

variable (parts : Parts)

/-- A type whose shape does not matter. -/
def anyType : Grammar Unit := do
  let _ ← parts.type true

def tightType : Grammar Unit := do
  let _ ← parts.type false

/-- A bound whose shape does not matter. -/
def anyBound (rules : BoundRules) : Grammar Unit := do
  let _ ← parts.bound rules

end Parts

end ResolverScaffold.Code
