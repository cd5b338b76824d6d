import ResolverScaffold.Code.TypeForm

/-!
# Patterns of Rust

The forms of patterns, which stand in parameters, closures and conditions.
-/

namespace ResolverScaffold.Code

open ListReader

/-- Whether a range has no upper end here. -/
def endsRange (nodes : List Node) : Bool :=
  nodes.isEmpty || seesAnyMark ["|", "=", ",", ";"] nodes || seesColon nodes
    || seesWord ["if"] nodes

/-- Whether another pattern comes next of which one has to match. -/
def seesAlternative (nodes : List Node) : Bool :=
  seesMark "|" nodes && !seesAnyMark ["||", "|="] nodes

def seesPathPattern (nodes : List Node) : Bool :=
  let next := nodes.drop 1
  (seesName nodes
      && (seesAnyMark ["::", "!", ".."] next || seesGroup .brace next || seesGroup .paren next))
    || (seesWord ["self"] nodes && seesMark "::" next)
    || seesAnyMark ["::", "<"] nodes || seesWord ["Self", "super", "crate"] nodes

def wholeNumber (text : List Char) : Nat × List Char :=
  match text with
  | '0' :: 'x' :: rest => (16, rest)
  | '0' :: 'o' :: rest => (8, rest)
  | '0' :: 'b' :: rest => (2, rest)
  | _ => (10, text)

/-- The value of digits in a base; underscores between them do not count. -/
def digitsValue? (base : Nat) : (value : Nat) → List Char → Option Nat
  | value, [] => some value
  | value, c :: rest =>
    if c = '_' then digitsValue? base value rest
    else
      match hexValue? c with
      | some digit =>
        if digit < base then digitsValue? base (value * base + digit) rest else none
      | none => none

/-- Whether a number can be the position of a field: it is whole, has no suffix and fits in 32
bits. -/
def isPosition (text : String) : Bool :=
  let (base, digits) := wholeNumber text.toList
  (digitsValue? base 0 digits).any (· < Nat.pow 2 32)

def constBlock : Grammar Unit := do
  keyword "const"
  block

namespace Parts

variable (parts : Parts)

/-- Patterns of which one has to match. -/
def alternatives : Grammar PatternShape := do
  let leading ← mark? "|"
  let first ← parts.pattern
  let others ← readWhile seesAlternative do
    mark "|"
    parts.pattern
  return if leading || !others.isEmpty then .other else first

/-- Patterns of which one has to match, whatever their shape. -/
def anyAlternatives : Grammar Unit := do
  let _ ← parts.alternatives

/-- A pattern whose shape does not matter. -/
def anyPattern : Grammar Unit := do
  let _ ← parts.pattern

def rangeEnd : Grammar Unit := do
  if ← sees seesLiteral then aLiteral
  else if ← sees (seesWord ["const"]) then constBlock
  else if ← sees (seesWord ["try"]) then failure
  else
    let _ ← parts.qualifiedPath true

/-- A range after its lower end, which may be absent.  Dots alone are no range. -/
def rangeRest (hasStart : Bool) : Grammar PatternShape := do
  let closed ← if ← mark? "..=" then pure true
    else if hasStart then mark? "..."
    else pure false
  if closed then
    parts.rangeEnd
    return if hasStart then .other else .openRange
  else
    mark ".."
    if ← sees endsRange then return if hasStart then .openRange else .other
    else
      parts.rangeEnd
      return if hasStart then .other else .openRange

def fieldPattern : Grammar Unit := do
  let boxed ← keyword? "box"
  let byRef ← keyword? "ref"
  let changes ← keyword? "mut"
  if boxed || byRef || changes then
    let _ ← name
  else
    match ← get with
    | .leaf (.number text) _ :: _ =>
      if !isPosition text then failure
      skip
      mark ":"
      parts.anyAlternatives
    | _ =>
      let _ ← name
      if ← mark? ":" then parts.anyAlternatives

def fieldPatterns : Grammar Unit :=
  commaItems do
    parts.outerAttributes
    if ← mark? ".." then
      if ← more then failure
    else parts.fieldPattern

/-- A pattern that starts with a path: the path, a macro, a structure or a range. -/
def pathPattern : Grammar PatternShape := do
  let (shape, qualified) ← parts.qualifiedPath true
  if !qualified && shape.plain && (← sees seesMacroMark) then
    mark "!"
    let _ ← anyGroup
    return .other
  else if ← sees (seesGroup .brace) then
    inGroup .brace parts.fieldPatterns
    return .other
  else if ← sees (seesGroup .paren) then
    inGroup .paren (commaItems parts.anyAlternatives)
    return .other
  else if ← sees (seesMark "..") then parts.rangeRest true
  else return .other

/-- A name, perhaps with a pattern for what it names. -/
def namePattern : Grammar Unit := do
  let _ ← keyword? "ref"
  let _ ← keyword? "mut"
  if !(← keyword? "self") then
    let _ ← name
  if ← mark? "@" then parts.anyPattern

/-- A pattern for the items of a list, which is no range that is open at an end. -/
def itemPattern : Grammar Unit := do
  if (← parts.alternatives) = .openRange then failure

/-- A pattern that is neither a path nor a range. -/
def otherPattern : Grammar Unit := do
  if ← keyword? "_" then pure ()
  else if ← keyword? "box" then parts.anyPattern
  else if ← sees fun nodes => seesWord ["ref", "mut", "self"] nodes || seesName nodes then
    parts.namePattern
  else if ← mark? "&" then
    let _ ← keyword? "mut"
    parts.anyPattern
  else if ← sees (seesGroup .paren) then inGroup .paren (commaItems parts.anyAlternatives)
  else inGroup .bracket (commaItems parts.itemPattern)

/-- A pattern whose parts are read. -/
def patternForm : Grammar PatternShape := do
  if ← sees seesPathPattern then parts.pathPattern
  else if ← sees fun nodes => seesLiteral nodes || seesWord ["const"] nodes then
    parts.rangeEnd
    if ← sees (seesMark "..") then parts.rangeRest true else return .other
  else if ← sees (seesMark "..") then parts.rangeRest false
  else
    parts.otherPattern
    return .other

end Parts

end ResolverScaffold.Code
