import ResolverScaffold.Code.Pattern

/-!
# Expressions of Rust

How far an expression goes.  What stands in brackets is not looked at: a source
is read for its items, and items end where the expression in them ends.

`source` ties the readers of types, bounds, patterns and expressions together,
each for as many levels as there are nodes.
-/

namespace ResolverScaffold.Code

open ListReader

/-- The operators between two operands, longer ones before their beginnings. -/
def operators : List String :=
  ["<<=", ">>=", "&&", "||", "<<", ">>", "==", "!=", "<=", ">=", "+=", "-=", "*=", "/=", "%=",
   "^=", "&=", "|=", "+", "-", "*", "/", "%", "^", "&", "|", "<", ">", "="]

def seesOperator (nodes : List Node) : Bool :=
  (seesAnyMark (".." :: operators) nodes && !seesMark "=>" nodes) || seesWord ["as"] nodes

def operator : Grammar Unit := fun nodes =>
  match operators.filterMap fun s => afterMark? s.toList nodes with
  | [] => none
  | rest :: _ => some ((), rest)

/-- Whether an expression goes on after an operand with brackets, a member or a question. -/
def seesTrailer (nodes : List Node) : Bool :=
  seesGroup .paren nodes || seesGroup .bracket nodes || seesMark "?" nodes
    || (seesMark "." nodes && !seesMark ".." nodes)

/-- Whether an expression can start here. -/
def seesExpr (nodes : List Node) : Bool :=
  ((nextWord? nodes).isSome && !seesWord ["as"] nodes) || seesAnyGroup nodes || seesLiteral nodes
    || seesLifetime nodes || seesAttribute nodes || seesAnyMark ["..", "::"] nodes
    || (seesMark "!" nodes && !seesMark "!=" nodes)
    || (seesMark "-" nodes && !seesAnyMark ["-=", "->"] nodes)
    || (seesMark "*" nodes && !seesMark "*=" nodes)
    || (seesMark "|" nodes && !seesMark "|=" nodes)
    || (seesMark "&" nodes && !seesMark "&=" nodes)
    || (seesMark "<" nodes && !seesAnyMark ["<=", "<<="] nodes)

/-- Whether a range has no upper end here. -/
def endsRangeExpr (braces : Bool) (nodes : List Node) : Bool :=
  nodes.isEmpty
    || seesAnyMark [",", ";", "?", "=", "+", "/", "%", "^", ">", "<=", "!=", "-=", "*=", "&=",
      "|=", "<<="] nodes
    || (seesMark "." nodes && !seesMark ".." nodes)
    || (!braces && seesGroup .brace nodes) || seesWord ["as"] nodes

def seesClosure (nodes : List Node) : Bool :=
  let next := nodes.drop 1
  seesMark "|" nodes || seesWord ["move", "static"] nodes
    || (seesWord ["for"] nodes && seesParameters next)
    || (seesWord ["const"] nodes && !seesGroup .brace next)
    || (seesWord ["async"] nodes && (seesMark "|" next || seesWord ["move"] next))

/-- Whether a block comes next that runs later or catches errors. -/
def seesMarkedBlock (nodes : List Node) : Bool :=
  let next := nodes.drop 1
  (seesWord ["async", "try"] nodes && seesGroup .brace next)
    || (seesWord ["async"] nodes && seesWord ["move"] next && seesGroup .brace (nodes.drop 2))

def seesPathOperand (nodes : List Node) : Bool :=
  seesName nodes || seesPathWord nodes || seesAnyMark ["::", "<"] nodes
    || (seesWord ["try"] nodes && seesAnyMark ["!", "::"] (nodes.drop 1))

def label? : Grammar Unit := do
  if ← sees seesLifetime then skip

/-- The upper end of a range that may be absent. -/
def rangeLimit (closed braces : Bool) (operand : Grammar Unit) : Grammar Unit := do
  if closed || !(← sees (endsRangeExpr braces)) then operand

namespace Parts

variable (parts : Parts)

/-- A member, a call, an index or a question after an operand. -/
def trailer : Grammar Unit := do
  if ← mark? "." then
    match ← get with
    | .leaf (.number _) _ :: _ => skip
    | _ =>
      if !(← keyword? "await") then
        let _ ← parts.segment true
  else skip

/-- The value that may follow a word such as `return`. -/
def value? (braces : Bool) : Grammar Unit := do
  if ← sees fun nodes => seesExpr nodes && (braces || !seesGroup .brace nodes) then
    parts.expr braces

def closureParameter : Grammar Unit := do
  parts.outerAttributes
  parts.anyPattern
  if ← mark? ":" then parts.anyType

def closure (braces : Bool) : Grammar Unit := do
  let _ ← parts.binder
  let _ ← keyword? "const"
  let _ ← keyword? "static"
  let _ ← keyword? "async"
  let _ ← keyword? "move"
  mark "|"
  let _ ← readWhile (fun nodes => !seesMark "|" nodes) do
    parts.closureParameter
    if !(← sees (seesMark "|")) then mark ","
  mark "|"
  if ← mark? "->" then
    parts.anyType
    block
  else parts.expr braces

/-- A conditional after its keyword: its condition and its branches. -/
def conditional : Grammar Unit := do
  parts.expr false
  block
  if ← keyword? "else" then
    if ← sees (seesWord ["if"]) then parts.expr true else block

/-- A loop, or a block that can be left by its label. -/
def labelled : Grammar Unit := do
  if ← keyword? "for" then
    parts.anyAlternatives
    keyword "in"
    parts.expr false
  else if ← keyword? "while" then parts.expr false
  else
    let _ ← keyword? "loop"
  block

/-- An operand that starts with a path: the path, a macro or a structure. -/
def pathOperand (braces : Bool) : Grammar Unit := do
  let (shape, qualified) ← parts.qualifiedPath true
  if !qualified && shape.plain && (← sees seesMacroMark) then
    mark "!"
    let _ ← anyGroup
  else if braces && (← sees (seesGroup .brace)) then skip

def keywordOperand (braces : Bool) : Grammar Unit := do
  if ← keyword? "if" then parts.conditional
  else if ← keyword? "match" then
    parts.expr false
    block
  else if ← keyword? "let" then
    parts.anyAlternatives
    mark "="
    parts.expr braces
  else if ← sees (seesWord ["loop", "while", "for"]) then parts.labelled
  else if ← keyword? "return" then parts.value? braces
  else if ← keyword? "yield" then parts.value? true
  else if ← keyword? "become" then parts.expr true
  else if ← keyword? "break" then
    label?
    parts.value? braces
  else if ← keyword? "continue" then label?
  else if (← keyword? "unsafe") || (← keyword? "const") then block
  else failure

/-- An operand without what may stand before and after it. -/
def atom (braces : Bool) : Grammar Unit := do
  if ← sees seesLiteral then aLiteral
  else if ← sees seesMarkedBlock then
    skip
    let _ ← keyword? "move"
    block
  else if ← sees seesClosure then parts.closure braces
  else if ← sees seesBuiltin then builtinForm
  else if ← sees seesPathOperand then parts.pathOperand braces
  else if ← sees fun nodes => seesAnyGroup nodes || seesWord ["_"] nodes then skip
  else if ← sees seesLifetime then
    skip
    mark ":"
    parts.labelled
  else if ← mark? "..=" then rangeLimit true braces (parts.expr braces)
  else if ← mark? ".." then rangeLimit false braces (parts.expr braces)
  else parts.keywordOperand braces

/-- A mark before an operand, and attributes after it. -/
def beforeOperand : Grammar Unit := do
  if ← mark? "&" then
    if ← sees fun nodes => seesWord ["raw"] nodes && seesWord ["const", "mut"] (nodes.drop 1) then
      skip
      skip
    else
      let _ ← keyword? "mut"
  else skip
  parts.outerAttributes

def operand (braces : Bool) : Grammar Unit := do
  parts.outerAttributes
  let _ ← readWhile (fun nodes => seesAnyMark ["&", "*", "!", "-"] nodes && !seesLiteral nodes)
    parts.beforeOperand
  parts.atom braces
  let _ ← readWhile seesTrailer parts.trailer

/-- An expression whose parts are read. -/
def exprForm (braces : Bool) : Grammar Unit := do
  parts.operand braces
  let _ ← readWhile seesOperator do
    if ← keyword? "as" then parts.tightType
    else if ← mark? "..=" then rangeLimit true braces (parts.operand braces)
    else if ← mark? ".." then rangeLimit false braces (parts.operand braces)
    else
      operator
      parts.operand braces

end Parts

/-! ### Readers of any depth -/

mutual

/-- A type of at most so many levels. -/
def typeAt : (depth : Nat) → (plus : Bool) → Grammar TypeShape
  | 0, _ => failure
  | depth + 1, plus =>
    Parts.typeForm ⟨typeAt depth, boundAt depth, patternAt depth, exprAt depth⟩ plus

/-- A bound of at most so many levels. -/
def boundAt : (depth : Nat) → BoundRules → Grammar BoundShape
  | 0, _ => failure
  | depth + 1, rules =>
    Parts.boundForm ⟨typeAt depth, boundAt depth, patternAt depth, exprAt depth⟩ rules

/-- A pattern of at most so many levels. -/
def patternAt : (depth : Nat) → Grammar PatternShape
  | 0 => failure
  | depth + 1 => Parts.patternForm ⟨typeAt depth, boundAt depth, patternAt depth, exprAt depth⟩

/-- An expression of at most so many levels. -/
def exprAt : (depth : Nat) → (braces : Bool) → Grammar Unit
  | 0, _ => failure
  | depth + 1, braces =>
    Parts.exprForm ⟨typeAt depth, boundAt depth, patternAt depth, exprAt depth⟩ braces

end

/-- How many levels there can be: a node opens at most two. -/
def levels : Grammar Nat := do return 2 * Node.sizes (← get) + 2

/-- The readers of what nests in a source. -/
def source : Parts where
  type plus := do typeAt (← levels) plus
  bound rules := do boundAt (← levels) rules
  pattern := do patternAt (← levels)
  expr braces := do exprAt (← levels) braces

end ResolverScaffold.Code
