import ResolverScaffold.Code.Attribute

/-!
# Types of Rust

The forms of types, of paths with arguments, of bounds and of generic
parameters.
-/

namespace ResolverScaffold.Code

open ListReader

/-- What a path is, as far as it decides how to read on. -/
structure PathShape where
  /-- It is one word. -/
  single : Bool
  /-- No word of it has arguments. -/
  plain : Bool
  /-- Its last word has no arguments. -/
  bareEnd : Bool

/-- A constant argument: a literal, a name or a block. -/
def constArgument : Grammar Unit := do
  if ← sees seesLiteral then aLiteral
  else if ← sees (seesGroup .brace) then skip
  else
    let _ ← name

def lifetimeBounds (stop : List Node → Bool) : Grammar Unit := separatedItems "+" stop aLifetime

/-- Whether a bound has to end here inside angles. -/
def endsBound (nodes : List Node) : Bool := nodes.isEmpty || seesAnyMark [",", ">", "="] nodes

/-- Whether the conditions on types end here. -/
def endsWhere (nodes : List Node) : Bool :=
  nodes.isEmpty || seesGroup .brace nodes || seesAnyMark [",", ";", "="] nodes || seesColon nodes

def seesParenArguments (nodes : List Node) : Bool :=
  seesGroup .paren nodes || (seesMark "::" nodes && seesGroup .paren (nodes.drop 2))

/-- Whether a path goes on with another word. -/
def seesSegment (nodes : List Node) : Bool :=
  seesMark "::" nodes && !seesGroup .paren (nodes.drop 2)

/-- Whether the exclamation mark of a macro comes next. -/
def seesMacroMark (nodes : List Node) : Bool := seesMark "!" nodes && !seesMark "!=" nodes

/-- Whether parameters in angles come next, and not a type in angles. -/
def seesParameters (nodes : List Node) : Bool :=
  let second := nodes.drop 1
  let third := nodes.drop 2
  seesMark "<" nodes
    && (seesMark ">" second || seesAttribute second || seesWord ["const"] second
      || ((seesLifetime second || seesName second)
        && (seesAnyMark [",", ">", "="] third || seesColon third)))

/-- Whether another bound can come next after a plus. -/
def seesBound (rules : BoundRules) (nodes : List Node) : Bool :=
  (nextWord? nodes).isSome || seesAnyMark ["::", "?"] nodes || seesLifetime nodes
    || seesGroup .paren nodes || (rules.constants && seesGroup .bracket nodes)

/-- A name or lifetime that a type captures. -/
def captured : Grammar Unit := do
  if ← sees fun nodes => seesLifetime nodes || seesWord ["Self"] nodes then skip
  else
    let _ ← name

/-- The ABI of a function that may be absent. -/
def abi : Grammar Unit := do
  if ← keyword? "extern" then
    match ← get with
    | .leaf .text _ :: _ => skip
    | _ => pure ()

/-- Whether the value that a method is called on comes next and may be changed. -/
def seesMutSelf (nodes : List Node) : Bool :=
  seesWord ["mut"] nodes && seesWord ["self"] (nodes.drop 1)

/-- Whether dots come next that stand for more parameters of a function type. -/
def seesDots (nodes : List Node) : Bool :=
  seesMark "..." nodes
    || ((seesName nodes || seesWord ["_"] nodes) && seesMark ":" (nodes.drop 1)
      && seesMark "..." (nodes.drop 2))

/-- The end of the parameters after dots that stand for more of them. -/
def endOfParameters : Grammar Unit := do
  let _ ← mark? ","
  atEnd

namespace Parts

variable (parts : Parts)

/-! ### Paths -/

/-- The result of a function that may be absent. -/
def returnType (plus : Bool) : Grammar Unit := do
  if ← mark? "->" then
    let _ ← parts.type plus

def parenArguments : Grammar Unit := do
  let _ ← mark? "::"
  inGroup .paren (commaItems parts.anyType)
  parts.returnType false

def angleArgument : Grammar Unit := do
  if ← sees fun nodes => seesLifetime nodes && !seesMark "+" (nodes.drop 1) then skip
  else if ← sees fun nodes => seesLiteral nodes || seesGroup .brace nodes then constArgument
  else if (← parts.type true) = .name then
    if ← mark? "=" then
      if ← sees fun nodes => seesLiteral nodes || seesGroup .brace nodes then constArgument
      else parts.anyType
    else if ← mark? ":" then
      separatedItems "+" (seesAnyMark [",", ">"]) (parts.anyBound .withConstants)

/-- A word of a path; the answer says whether it has arguments.  In an expression, arguments
need a double colon. -/
def segment (inExpr : Bool) : Grammar Bool := do
  if ← sees (seesWord ["super", "self", "crate", "try"]) then
    skip
    return false
  else
    if ← sees (seesWord ["Self"]) then skip
    else
      let _ ← name
    let nodes ← get
    if (!inExpr && seesMark "<" nodes && !seesAnyMark ["<=", "<<="] nodes)
        || (seesMark "::" nodes && seesMark "<" (nodes.drop 2)) then
      let _ ← mark? "::"
      angleItems parts.angleArgument
      return true
    else return false

def path (inExpr : Bool) : Grammar PathShape := do
  let rooted ← mark? "::"
  let first ← parts.segment inExpr
  let others ← readWhile seesSegment do
    mark "::"
    parts.segment inExpr
  let all := first :: others
  return ⟨!rooted && others.isEmpty, !all.contains true, !all.getLastD false⟩

/-- A path that may start with a type in angles: what it is, and whether it does. -/
def qualifiedPath (inExpr : Bool) : Grammar (PathShape × Bool) := do
  if ← mark? "<" then
    parts.anyType
    if ← keyword? "as" then
      let _ ← parts.path false
    mark ">"
    mark "::"
    let first ← parts.segment inExpr
    let others ← readWhile (seesMark "::") do
      mark "::"
      parts.segment inExpr
    return (⟨false, false, !(first :: others).getLastD false⟩, true)
  else return (← parts.path inExpr, false)

/-! ### Parameters in angles -/

/-- A parameter in angles; `blank` says whether it may be an underscore alone. -/
def genericParameter (blank : Bool) : Grammar Unit := do
  parts.outerAttributes
  if ← sees seesLifetime then
    skip
    if ← mark? ":" then lifetimeBounds endsBound
  else if ← keyword? "const" then
    let _ ← name
    mark ":"
    parts.anyType
    if ← mark? "=" then constArgument
  else if !(blank && (← keyword? "_")) then
    let _ ← name
    if ← mark? ":" then separatedItems "+" endsBound (parts.anyBound .withConstants)
    if ← mark? "=" then parts.anyType

/-- Parameters in angles that may be absent. -/
def generics : Grammar Unit := do
  if ← sees (seesMark "<") then angleItems (parts.genericParameter true)

/-- Lifetimes that a bound, a function type or a closure is about, and whether they are there. -/
def binder : Grammar Bool := do
  if ← keyword? "for" then
    angleItems (parts.genericParameter false)
    return true
  else return false

/-! ### Bounds -/

def traitBound (rules : BoundRules) : Grammar Unit := do
  let bindsFirst ← parts.binder
  let isConstant ←
    if ← sees (seesGroup .bracket) then
      inGroup .bracket (keyword "const")
      pure true
    else keyword? "const"
  if isConstant && !rules.constants then failure
  if ← mark? "?" then
    if bindsFirst || (← sees (seesWord ["for"])) then failure
  let path ← parts.path false
  if path.bareEnd && (← sees seesParenArguments) then parts.parenArguments

/-- A bound whose parts are read. -/
def boundForm (rules : BoundRules) : Grammar BoundShape := do
  if ← sees seesLifetime then
    skip
    return .other
  else if ← keyword? "use" then
    angleItems captured
    if rules.captures then return .other else failure
  else if ← sees (seesGroup .paren) then
    inGroup .paren (parts.traitBound rules)
    return .byTrait
  else
    parts.traitBound rules
    return .byTrait

/-- Further bounds with a plus before each.  A plus may stand at the end and counts as one. -/
def moreBounds (rules : BoundRules) : Grammar (List BoundShape) := do
  let found ← readWhile (fun nodes => seesMark "+" nodes && seesBound rules (nodes.drop 1)) do
    mark "+"
    parts.bound rules
  return if ← mark? "+" then found ++ [.other] else found

/-- Bounds of which one has to be by a trait. -/
def bounds (rules : BoundRules) (plus : Bool) : Grammar Unit := do
  let first ← parts.bound rules
  let others ← if plus then parts.moreBounds rules else pure []
  if (first :: others).contains .byTrait then pure () else failure

/-! ### Function types -/

/-- A parameter of a function type that is no dots.  Only the first can be the value that a
method is called on. -/
def functionTypeParameter (isFirst : Bool) : Grammar Unit := do
  let changes ← sees fun nodes => isFirst && seesMutSelf nodes
  if changes then skip
  let isSelf ← sees fun nodes => isFirst && seesWord ["self"] nodes
  let named ← sees fun nodes =>
    (seesName nodes || seesWord ["_"] nodes || isSelf) && seesColon (nodes.drop 1)
  if named then
    skip
    mark ":"
  if ← sees fun nodes => isFirst && !(named && isSelf) && seesMutSelf nodes then
    skip
    skip
  else if changes && !named then keyword "self"
  else parts.anyType

/-- A parameter of a function type, or the dots at the end. -/
def functionTypeItem (isFirst : Bool) : Grammar Unit := do
  parts.outerAttributes
  if ← sees seesDots then
    if !(← mark? "...") then
      skip
      mark ":"
      mark "..."
    endOfParameters
  else parts.functionTypeParameter isFirst

def functionType : Grammar Unit := do
  let _ ← keyword? "unsafe"
  abi
  keyword "fn"
  inGroup .paren do
    if ← more then
      parts.functionTypeItem true
      let _ ← readWhile (fun nodes => !nodes.isEmpty) do
        mark ","
        if ← more then parts.functionTypeItem false
  parts.returnType false

/-! ### All types -/

/-- Bounds that are added to a type in parentheses: each plus needs one. -/
def addedBounds : Grammar (List Unit) :=
  readWhile (seesMark "+") do
    mark "+"
    parts.anyBound .plain

/-- A type in parentheses: none, several, or bounds. -/
def parenType (plus : Bool) : Grammar TypeShape := do
  let relaxed ← sees fun nodes =>
    match nodes with
    | .group _ _ _ _ _ inner :: _ => seesMark "?" inner
    | _ => false
  let inner ← inGroup .paren do
    if !(← more) then return TypeShape.other
    else if ← sees seesLifetime then
      parts.bounds .plain true
      return .other
    else if relaxed then
      parts.traitBound .plain
      return .bound
    else
      let first ← parts.type true
      if ← mark? "," then
        commaItems parts.anyType
        return .other
      else return first
  if relaxed || (inner ≠ .other && plus && (← sees (seesMark "+"))) then
    let others ← parts.addedBounds
    return if others.isEmpty then .bound else .other
  else return .other

/-- A type that starts with a path: the path, a macro, or bounds. -/
def pathType (plus isBound : Bool) : Grammar TypeShape := do
  let (shape, qualified) ← parts.qualifiedPath false
  if qualified then return .other
  else if shape.plain && (← sees seesMacroMark) then
    mark "!"
    let _ ← anyGroup
    return .other
  else if isBound || (plus && (← sees (seesMark "+"))) then
    let others ← if plus then parts.moreBounds .plain else pure []
    return if others.isEmpty then .bound else .other
  else return if shape.single then .name else .path

/-- An array or a slice. -/
def arrayType : Grammar Unit :=
  inGroup .bracket do
    parts.anyType
    if ← mark? ";" then parts.expr true

/-- A type that is neither a path nor a function nor in parentheses. -/
def otherType (plus : Bool) : Grammar Unit := do
  if ← keyword? "dyn" then
    let _ ← mark? "*"
    parts.bounds .plain plus
  else if ← keyword? "impl" then parts.bounds .all plus
  else if ← sees (seesGroup .bracket) then parts.arrayType
  else if ← mark? "*" then
    if !(← keyword? "const") then keyword "mut"
    parts.tightType
  else if ← mark? "&" then
    if ← sees seesLifetime then skip
    let _ ← keyword? "mut"
    parts.tightType
  else if (← mark? "!") || (← keyword? "_") then pure ()
  else if ← sees seesLifetime then parts.bounds .plain true
  else failure

/-- A type whose parts are read. -/
def typeForm (plus : Bool) : Grammar TypeShape := do
  let bound ← parts.binder
  if bound && !(← sees fun nodes =>
      seesName nodes || seesPathWord nodes || seesWord ["fn", "unsafe", "extern"] nodes) then
    failure
  if ← sees (seesGroup .paren) then parts.parenType plus
  else if ← sees (seesWord ["fn", "unsafe", "extern"]) then
    parts.functionType
    return .other
  else if ← sees seesBuiltin then
    builtinForm
    return .other
  else if ← sees fun nodes =>
      seesName nodes || seesPathWord nodes || seesAnyMark ["::", "<"] nodes then
    parts.pathType plus bound
  else
    parts.otherType plus
    return .other

/-! ### Conditions on types -/

/-- A condition on a type or lifetime. -/
def whereItem : Grammar Unit := do
  if ← sees fun nodes => seesLifetime nodes && seesMark ":" (nodes.drop 1) then
    skip
    mark ":"
    lifetimeBounds endsWhere
  else
    let _ ← parts.binder
    parts.anyType
    mark ":"
    separatedItems "+" endsWhere (parts.anyBound .withConstants)

/-- Conditions on types that may be absent. -/
def whereClause : Grammar Unit := do
  if ← keyword? "where" then
    if ← sees seesParameters then failure
    separatedItems "," endsWhere parts.whereItem

end Parts

end ResolverScaffold.Code
