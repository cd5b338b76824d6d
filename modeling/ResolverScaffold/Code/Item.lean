import ResolverScaffold.Code.Parameter

/-!
# Items of Rust

A source is a sequence of items.  `Item.readAll?` reads a whole text and keeps
of each item what is needed: where a function and its body stand, and the names
of declared types.
-/

namespace ResolverScaffold.Code

open ListReader

inductive Item where
  /-- A function with a body: where it starts, where its opening brace ends, where its closing
  brace starts, and where it stops. -/
  | function (name : String) (start opened closed stop : Place)
  /-- A declaration of a type or trait. -/
  | declaration (name : String)
  | other
  deriving DecidableEq, Repr

namespace Item

/-! ### Functions -/

/-- What stands before the word `fn`. -/
def functionStart (isForeign : Bool) : Grammar Unit := do
  let _ ← keyword? "const"
  let _ ← keyword? "async"
  if !(isForeign && (← keyword? "safe")) then
    let _ ← keyword? "unsafe"
  abi
  keyword "fn"

def seesFunction (isForeign : Bool) (nodes : List Node) : Bool :=
  (functionStart isForeign nodes).isSome

def signature (isForeign : Bool) : Grammar String := do
  functionStart isForeign
  let name ← name
  source.generics
  inGroup .paren parameters
  source.returnType true
  source.whereClause
  return name

/-- A function of which only the form matters: a semicolon or a body. -/
def method (isForeign : Bool) : Grammar Unit := do
  let _ ← signature isForeign
  if !(← mark? ";") then block

def function? (start : Place) : Grammar Item := do
  let name ← signature false
  if ← mark? ";" then return .other
  else
    match ← get with
    | .group .brace _ opened closed stop _ :: _ =>
      skip
      return .function name start opened closed stop
    | _ => failure

/-! ### Values, types and uses -/

def constant : Grammar Unit := do
  keyword "const"
  nameOrBlank
  source.generics
  mark ":"
  source.anyType
  if ← mark? "=" then source.expr true
  source.whereClause
  mark ";"

def staticValue : Grammar Unit := do
  keyword "static"
  let _ ← keyword? "mut"
  let _ ← name
  if ← mark? ":" then source.anyType
  else if !(← sees (seesMark "=")) then failure
  if ← mark? "=" then source.expr true
  mark ";"

/-- Whether the bounds of a named type end here. -/
def endsAlias (nodes : List Node) : Bool :=
  seesWord ["where"] nodes || seesAnyMark ["=", ";"] nodes

/-- A named type from its keyword on.  It is a declaration if it says which type it is and has
no bounds. -/
def typeAlias : Grammar Item := do
  keyword "type"
  let name ← name
  source.generics
  let bounded ← mark? ":"
  if bounded then separatedItems "+" endsAlias (source.anyBound .withConstants)
  source.whereClause
  let defined ← mark? "="
  if defined then source.anyType
  mark ";"
  return if defined && !bounded then .declaration name else .other

/-- A named type in a trait or implementation from its keyword on. -/
def associatedType : Grammar Unit := do
  keyword "type"
  let _ ← name
  source.generics
  if ← mark? ":" then separatedItems "+" endsAlias (source.anyBound .withConstants)
  if ← mark? "=" then source.anyType
  source.whereClause
  mark ";"

/-- What a use names, of at most so many levels; `rooted` says whether a name in braces may
start with a double colon. -/
def useTreeAt : (depth : Nat) → (rooted : Bool) → Grammar Unit
  | 0, _ => failure
  | depth + 1, rooted => do
    if ← mark? "*" then pure ()
    else if ← sees (seesGroup .brace) then
      inGroup .brace <| commaItems do
        let atRoot ← if rooted then mark? "::" else pure false
        useTreeAt depth (rooted && !atRoot)
    else if ← sees fun nodes =>
        seesName nodes || seesWord ["self", "super", "crate", "try"] nodes then
      skip
      if ← mark? "::" then useTreeAt depth false
      else if ← keyword? "as" then nameOrBlank
    else failure

def use : Grammar Unit := do
  keyword "use"
  let rooted ← mark? "::"
  useTreeAt (Node.sizes (← get) + 1) !rooted
  mark ";"

/-- The import of a library from its keywords on. -/
def externCrate : Grammar Unit := do
  keyword "extern"
  keyword "crate"
  if !(← keyword? "self") then
    let _ ← name
  if ← keyword? "as" then nameOrBlank
  mark ";"

/-! ### Structures -/

def plainField : Grammar Unit := do
  source.outerAttributes
  let _ ← visibility
  source.anyType

/-- Whether the fields of a structure or union come next in place of a type. -/
def seesFields (nodes : List Node) : Bool :=
  seesWord ["struct"] nodes || (seesWord ["union"] nodes && seesGroup .brace (nodes.drop 1))

/-- Fields with names in braces, of at most so many levels.  In place of a name an underscore may
stand, with fields of its own. -/
def namedFieldsAt : (depth : Nat) → Grammar Unit
  | 0 => failure
  | depth + 1 =>
    inGroup .brace <| commaItems do
      source.outerAttributes
      let _ ← visibility
      let blank ← sees (seesWord ["_"])
      nameOrBlank
      mark ":"
      if blank && (← sees seesFields) then
        skip
        namedFieldsAt depth
      else source.anyType

def namedFields : Grammar Unit := do namedFieldsAt (Node.sizes (← get) + 1)

/-- Fields without names in parentheses. -/
def plainFields : Grammar Unit := inGroup .paren (commaItems plainField)

/-- What a structure has. -/
def structureBody : Grammar Unit := do
  if ← sees (seesGroup .paren) then
    plainFields
    source.whereClause
    mark ";"
  else
    source.whereClause
    if !(← mark? ";") then namedFields

def variant : Grammar Unit := do
  source.outerAttributes
  let _ ← visibility
  let _ ← name
  if ← sees (seesGroup .brace) then namedFields
  else if ← sees (seesGroup .paren) then plainFields
  if ← mark? "=" then source.expr true

/-- What an enumeration has. -/
def enumerationBody : Grammar Unit := do
  source.whereClause
  inGroup .brace (commaItems variant)

/-- A declaration from its keyword on, where `body` reads what follows its parameters. -/
def declared (word : String) (body : Grammar Unit) : Grammar Item := do
  keyword word
  let name ← name
  source.generics
  body
  return .declaration name

/-! ### Macros -/

def seesMacro (nodes : List Node) : Bool :=
  seesName nodes || seesWord ["self", "super", "crate"] nodes || seesMark "::" nodes

/-- The use of a macro; as an item of a source it may name what it defines. -/
def macroUse (named : Bool) : Grammar Unit := do
  plainPath
  mark "!"
  if named && (← sees fun nodes => seesName nodes || seesWord ["try"] nodes) then skip
  if !(← anyGroup) then mark ";"

/-- The definition of a macro by its own keyword. -/
def macroDefinition : Grammar Unit := do
  keyword "macro"
  let _ ← name
  if ← sees (seesGroup .paren) then skip
  block

/-! ### Traits and implementations -/

/-- Items of which only the form matters, in braces. -/
def members (member : Grammar Unit) : Grammar Unit :=
  inGroup .brace do
    source.innerAttributes
    let _ ← readWhile (fun nodes => !nodes.isEmpty) member

def traitMember : Grammar Unit := do
  source.outerAttributes
  let isVisible ← visibility
  let isDefault ← keyword? "default"
  if ← sees (seesFunction false) then method false
  else if ← sees (seesWord ["const"]) then constant
  else if ← sees (seesWord ["type"]) then associatedType
  else if !isVisible && !isDefault && (← sees seesMacro) then macroUse false
  else failure

def implementationMember : Grammar Unit := do
  source.outerAttributes
  let isVisible ← visibility
  let isDefault ←
    if ← sees fun nodes => seesMark "!" (nodes.drop 1) then pure false else keyword? "default"
  if ← sees (seesFunction false) then method false
  else if ← sees (seesWord ["const"]) then constant
  else if ← sees (seesWord ["type"]) then associatedType
  else if !isVisible && !isDefault && (← sees seesMacro) then macroUse false
  else failure

def foreignMember : Grammar Unit := do
  source.outerAttributes
  let isVisible ← visibility
  if ← sees (seesFunction true) then method true
  else if ← sees fun nodes =>
      seesWord ["static"] nodes
        || (seesWord ["unsafe", "safe"] nodes && seesWord ["static"] (nodes.drop 1)) then
    if !(← sees (seesWord ["static"])) then skip
    keyword "static"
    let _ ← keyword? "mut"
    let _ ← name
    mark ":"
    source.anyType
    if ← mark? "=" then source.expr true
    mark ";"
  else if ← sees (seesWord ["type"]) then
    let _ ← typeAlias <|> (do associatedType; return .other)
  else if !isVisible && (← sees seesMacro) then macroUse false
  else failure

def foreignBlock : Grammar Unit := do
  let _ ← keyword? "unsafe"
  if !(← sees (seesWord ["extern"])) then failure
  abi
  members foreignMember

/-- A trait from its keywords on; an alias of bounds is no declaration. -/
def trait : Grammar Item := do
  let isUnsafe ← keyword? "unsafe"
  let isAuto ← keyword? "auto"
  keyword "trait"
  let name ← name
  source.generics
  if !isUnsafe && !isAuto && (← mark? "=") then
    separatedItems "+" endsAlias (source.anyBound .plain)
    source.whereClause
    mark ";"
    return .other
  else
    if ← mark? ":" then
      separatedItems "+" (fun nodes => seesWord ["where"] nodes || seesGroup .brace nodes)
        (source.anyBound .withConstants)
    source.whereClause
    members traitMember
    return .declaration name

def implementation : Grammar Unit := do
  let _ ← keyword? "default"
  let _ ← keyword? "unsafe"
  keyword "impl"
  if ← sees seesParameters then source.generics
  if ← sees fun nodes => seesMark "?" nodes && seesWord ["const"] (nodes.drop 1) then skip
  let _ ← keyword? "const"
  let negative ← sees fun nodes => seesMark "!" nodes && !seesGroup .brace (nodes.drop 1)
  if negative then skip
  source.anyType
  if ← keyword? "for" then source.anyType
  else if negative then failure
  source.whereClause
  members implementationMember

/-! ### Sources -/

/-- A module from its keywords on, where `item` reads its items. -/
def module (item : Grammar Item) : Grammar Unit := do
  let _ ← keyword? "unsafe"
  keyword "mod"
  if !(← keyword? "try") then
    let _ ← name
  if !(← mark? ";") then
    members do
      let _ ← item

/-- An item whose items `item` reads. -/
def itemWith (item : Grammar Item) : Grammar Item := do
  let start := ((← get).head?.map Node.start).getD Place.start
  let other (p : Grammar Unit) : Grammar Item := do
    p
    return .other
  source.outerAttributes
  let isVisible ← visibility
  let nodes ← get
  let next := nodes.drop 1
  if seesFunction false nodes then function? start
  else if seesWord ["extern"] nodes then
    if seesWord ["crate"] next then other externCrate
    else if isVisible then failure
    else other foreignBlock
  else if seesWord ["use"] nodes then other use
  else if seesWord ["static"] nodes then other staticValue
  else if seesWord ["const"] nodes then other constant
  else if seesWord ["unsafe"] nodes then
    if seesWord ["trait"] next || (seesWord ["auto"] next && seesWord ["trait"] (nodes.drop 2)) then
      trait
    else if seesWord ["impl"] next then other implementation
    else if seesWord ["extern"] next then if isVisible then failure else other foreignBlock
    else if seesWord ["mod"] next then other (module item)
    else failure
  else if seesWord ["mod"] nodes then other (module item)
  else if seesWord ["type"] nodes then typeAlias
  else if seesWord ["struct"] nodes then declared "struct" structureBody
  else if seesWord ["enum"] nodes then declared "enum" enumerationBody
  else if seesWord ["union"] nodes && seesName next then
    declared "union" do
      source.whereClause
      namedFields
  else if seesWord ["trait"] nodes || (seesWord ["auto"] nodes && seesWord ["trait"] next) then
    trait
  else if seesWord ["impl"] nodes || (seesWord ["default"] nodes && !seesMark "!" next) then
    other implementation
  else if seesWord ["macro"] nodes then other macroDefinition
  else if !isVisible && seesMacro nodes then other (macroUse true)
  else failure

/-- An item of at most so many levels. -/
def itemAt : (depth : Nat) → Grammar Item
  | 0 => failure
  | depth + 1 => itemWith (itemAt depth)

def items : Grammar (List Item) := do
  let depth := Node.sizes (← get) + 1
  source.innerAttributes
  readWhile (fun nodes => !nodes.isEmpty) (itemAt depth)

/-- The items of a text, which may start with a byte order mark. -/
def readAll? (text : List Char) : Option (List Item) := do
  let (all, _) ← items (← Node.ofText? text)
  return all

end Item

end ResolverScaffold.Code
