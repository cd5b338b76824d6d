import ResolverScaffold.Schema.BlockString
import ResolverScaffold.Schema.Definition
import ResolverScaffold.Text.Reader

/-!
# Schema statements

A schema source is a sequence of statements: blocks that name the root types,
definitions and extensions of types, and definitions of directives, which
change nothing.  `Statement.readAll?` reads a source.
-/

namespace ResolverScaffold.Schema

/-- The root types that a schema block names. -/
structure Roots where
  query : Option String := none
  mutation : Option String := none
  subscription : Option String := none
  deriving DecidableEq, Repr

/-- A statement of a schema source. -/
inductive Statement where
  | roots (roots : Roots)
  | define (definition : Definition)
  | extend (definition : Definition)
  | directive
  deriving Repr

namespace Statement

open Text (Reader)
open Text.Reader
open ListReader

/-! ### Words -/

/-- A text without the characters and comments that may stand between words. -/
def skipIgnored : (comment : Bool) → List Char → List Char
  | _, [] => []
  | true, c :: rest => skipIgnored (c != '\n' && c != '\r') rest
  | false, c :: rest =>
    if c == ' ' || c == '\t' || c == ',' || c == '\n' || c == '\r' || c == '\ufeff' then
      skipIgnored false rest
    else if c == '#' then skipIgnored true rest
    else c :: rest

/-- Pass over what may stand between words. -/
def gap : Reader Unit := modify (skipIgnored false)

def word {α : Type} (p : Reader α) : Reader α := do
  let a ← p
  gap
  return a

/-- A fixed word.  It need not end where a name ends. -/
def keyword (s : String) : Reader Unit := word (literal s)

def isNameStart (c : Char) : Bool := c.isAlpha || c == '_'

/-- Whether a character continues a name. -/
def isNameRest (c : Char) : Bool := c.isAlphanum || c == '_'

def nameChars : Reader String := do
  let c ← satisfy isNameStart
  let cs ← takeWhile isNameRest
  return String.ofList (c :: cs)

def name : Reader String := word nameChars

/-! ### Strings -/

def hexDigit : Reader Nat := fun text =>
  match text with
  | [] => none
  | c :: rest =>
    if c.isDigit then some (c.toNat - 48, rest)
    else if 'a' ≤ c ∧ c ≤ 'f' then some (c.toNat - 87, rest)
    else if 'A' ≤ c ∧ c ≤ 'F' then some (c.toNat - 55, rest)
    else none

/-- The character of a `\u` escape; half of a pair is none. -/
def unicodeEscape : Reader Char := do
  let a ← hexDigit
  let b ← hexDigit
  let c ← hexDigit
  let d ← hexDigit
  let n := ((a * 16 + b) * 16 + c) * 16 + d
  if 0xD800 ≤ n ∧ n ≤ 0xDFFF then failure else return Char.ofNat n

/-- The character after a backslash. -/
def escape : Reader Char := do
  let c ← satisfy fun _ => true
  match c with
  | '"' => return '"'
  | '\\' => return '\\'
  | '/' => return '/'
  | 'b' => return '\x08'
  | 'f' => return '\x0c'
  | 'n' => return '\n'
  | 'r' => return '\r'
  | 't' => return '\t'
  | 'u' => unicodeEscape
  | _ => failure

def stringChar : Reader Char :=
  (do literal "\\"; escape) <|>
    satisfy fun c => c != '"' && c != '\\' && c != '\n' && c != '\r'

/-- What stands before the closing triple quote, and what follows it.  A triple quote after a
backslash does not close. -/
def untilTripleQuote : List Char → Option (List Char × List Char)
  | [] => none
  | '\\' :: '"' :: '"' :: '"' :: rest =>
    (untilTripleQuote rest).map fun r => ('\\' :: '"' :: '"' :: '"' :: r.1, r.2)
  | '"' :: '"' :: '"' :: rest => some ([], rest)
  | c :: rest => (untilTripleQuote rest).map fun r => (c :: r.1, r.2)

/-- A string over several lines. -/
def blockString : Reader String := do
  literal "\"\"\""
  let raw ← (untilTripleQuote : Reader (List Char))
  return String.ofList (BlockString.value raw)

def lineString : Reader String := do
  literal "\""
  let cs ← many stringChar
  literal "\""
  return String.ofList cs

def string : Reader String := word (blockString <|> lineString)

/-! ### Types and values -/

/-- A type, nested at most so deep. -/
def typeRefChars : (depth : Nat) → Reader TypeRef
  | 0 => failure
  | depth + 1 => do
    let listed ← optional? do
      literal "["
      let inner ← typeRefChars depth
      literal "]"
      return inner.name
    let (name, isArray) ← match listed with
      | some name => pure (name, true)
      | none => do pure (← nameChars, false)
    let required ← tryRead (literal "!")
    return { name, isArray, required }

/-- A type.  Nothing may stand between its parts. -/
def typeRef : Reader TypeRef := word do typeRefChars (← depth)

def digits : Reader (List Nat) := do
  return (← takeWhile1 Char.isDigit).map fun c => c.toNat - 48

/-- A number; no letter may follow it. -/
def number : Reader Value := do
  let negative ← tryRead (literal "-")
  let whole ← (do literal "0"; return [0]) <|> digits
  let fraction ← optional? do
    literal "."
    digits
  let power ← optional? do
    let _ ← satisfy fun c => c == 'e' || c == 'E'
    let sign ← optional? (satisfy fun c => c == '+' || c == '-')
    return (sign == some '-', ← digits)
  refuses (satisfy isNameStart)
  match ({ negative, whole, fraction, power } : NumberLiteral).value? with
  | some v => return v
  | none => failure

/-- A name that does not start like one of the constants. -/
def enumName : Reader String := do
  refuses (literal "true" <|> literal "false" <|> literal "null")
  name

/-- A value, nested at most so deep. -/
def valueWithin : (depth : Nat) → Reader Value
  | 0 => failure
  | depth + 1 =>
    word number
    <|> (do return .text (← string))
    <|> (do keyword "true"; return .bool true)
    <|> (do keyword "false"; return .bool false)
    <|> (do keyword "null"; return .null)
    <|> (do return .text (← enumName))
    <|> (do
      keyword "["
      let items ← many (valueWithin depth)
      keyword "]"
      return .list items)
    <|> (do
      keyword "\x7b"
      let entries ← many do
        let key ← name
        keyword ":"
        return (key, ← valueWithin depth)
      keyword "\x7d"
      return Value.ofEntries entries)

def value : Reader Value := do valueWithin (← depth)

def directiveArguments : Reader (List (String × Value)) := do
  keyword "("
  let arguments ← many1 do
    let key ← name
    keyword ":"
    return (key, ← value)
  keyword ")"
  return arguments

def directives : Reader (List Directive) := many1 do
  keyword "@"
  let name ← name
  let arguments := (← optional? directiveArguments).getD []
  return { name, arguments }

def anyDirectives : Reader (List Directive) := do return (← optional? directives).getD []

/-! ### Parts of definitions -/

/-- An argument or a field of an input, with its directives. -/
def inputValue : Reader (Argument × List Directive) := do
  let description ← optional? string
  let name ← name
  keyword ":"
  let type ← typeRef
  let _ ← optional? do
    keyword "="
    value
  let directives ← anyDirectives
  return ({ name, description, type }, directives)

def argumentList : Reader (List Argument) := do
  keyword "("
  let arguments ← many1 inputValue
  keyword ")"
  return arguments.map (·.1)

def fields : Reader (List Field) := do
  keyword "\x7b"
  let fields ← many1 do
    let description ← optional? string
    let name ← name
    let arguments := (← optional? argumentList).getD []
    keyword ":"
    let type ← typeRef
    let directives ← anyDirectives
    return { name, description, arguments, type, directives }
  keyword "\x7d"
  return fields

def inputFields : Reader (List Field) := do
  keyword "\x7b"
  let values ← many1 inputValue
  keyword "\x7d"
  return values.map fun (a, directives) =>
    { name := a.name, description := a.description, arguments := [], type := a.type, directives }

def interfaces : Reader (List String) := do
  keyword "implements"
  let _ ← optional? (keyword "&")
  let first ← name
  let more ← many do
    keyword "&"
    name
  return first :: more

def unionMembers : Reader (List String) := do
  keyword "="
  let _ ← optional? (keyword "|")
  let first ← name
  let more ← many do
    keyword "|"
    name
  return first :: more

def enumValues : Reader (List EnumValue) := do
  keyword "\x7b"
  let values ← many1 do
    let description ← optional? string
    let name ← enumName
    let _ ← anyDirectives
    return { name, description }
  keyword "\x7d"
  return values

/-- What follows the name of a type. -/
structure Body where
  implements : List String := []
  directives : List Directive := []
  fields : List Field := []
  members : List String := []
  values : List EnumValue := []

/-- Directives and then a part, both of which may be missing. -/
def plainBody {α : Type} (part : Reader (List α)) (build : List Directive → List α → Body) :
    Reader Body := do
  let directives ← anyDirectives
  let items := (← optional? part).getD []
  return build directives items

/-- Directives and then a part, or directives alone. -/
def extendBody {α : Type} (part : Reader (List α)) (build : List Directive → List α → Body) :
    Reader Body :=
  (do
    let directives ← anyDirectives
    return build directives (← part))
  <|> (do return build (← directives) [])

/-- Interfaces, which may be missing, before another body. -/
def withInterfaces (body : Reader Body) : Reader Body := do
  let implements := (← optional? interfaces).getD []
  return { ← body with implements }

/-- The bodies of a definition and of an extension for each kind of type. -/
def bodies : Kind → Reader Body × Reader Body
  | .scalar =>
    (do return { directives := ← anyDirectives }, do return { directives := ← directives })
  | .object =>
    (withInterfaces (plainBody fields fun directives fields => { directives, fields }),
      withInterfaces (extendBody fields fun directives fields => { directives, fields })
        <|> (do return { implements := ← interfaces }))
  | .interface =>
    (withInterfaces (plainBody fields fun directives fields => { directives, fields }),
      withInterfaces (extendBody fields fun directives fields => { directives, fields }))
  | .union =>
    (plainBody unionMembers fun directives members => { directives, members },
      extendBody unionMembers fun directives members => { directives, members })
  | .enum =>
    (plainBody enumValues fun directives values => { directives, values },
      extendBody enumValues fun directives values => { directives, values })
  | .input =>
    (plainBody inputFields fun directives fields => { directives, fields },
      extendBody inputFields fun directives fields => { directives, fields })

def kindWord : Kind → String
  | .object => "type"
  | .input => "input"
  | .interface => "interface"
  | .union => "union"
  | .enum => "enum"
  | .scalar => "scalar"

/-! ### Statements -/

/-- Where a source comes from. -/
structure Origin where
  file : String
  builtin : Bool
  /-- The line feeds of the whole source. -/
  lineFeeds : Nat

/-- The line of the text that is left. -/
def line (origin : Origin) : Reader Nat := do
  return origin.lineFeeds - (← get).count '\n' + 1

def definition (origin : Origin) (line : Nat) (kind : Kind) (description : Option String)
    (name : String) (body : Body) : Definition :=
  { name, kind, description, directives := body.directives, fields := body.fields,
    implements := body.implements, members := body.members, values := body.values,
    location := ⟨origin.file, line⟩, builtin := origin.builtin }

/-- A definition or an extension of a type of the given kind. -/
def typeStatement (origin : Origin) (kind : Kind) : Reader Statement :=
  (do
    let line ← line origin
    let description ← optional? string
    keyword (kindWord kind)
    let name ← name
    let body ← (bodies kind).1
    return .define (definition origin line kind description name body))
  <|> (do
    let line ← line origin
    keyword "extend"
    keyword (kindWord kind)
    let name ← name
    let body ← (bodies kind).2
    return .extend (definition origin line kind none name body))

/-- The roots of a list of root entries, each named at most once. -/
def collectRoots : List (String × String) → Option Roots
  | [] => some {}
  | (root, name) :: rest => do
    let named ← collectRoots rest
    match root with
    | "query" => if named.query.isSome then none else some { named with query := name }
    | "mutation" => if named.mutation.isSome then none else some { named with mutation := name }
    | _ =>
      if named.subscription.isSome then none else some { named with subscription := name }

def rootBlock : Reader Roots := do
  keyword "\x7b"
  let entries ← many1 do
    let root ← (do keyword "query"; return "query") <|> (do keyword "mutation"; return "mutation")
      <|> (do keyword "subscription"; return "subscription")
    keyword ":"
    return (root, ← name)
  keyword "\x7d"
  match collectRoots entries with
  | some named => return named
  | none => failure

/-- A schema block.  One that is no extension has to name the query root. -/
def schemaStatement : Reader Statement :=
  (do
    keyword "schema"
    let _ ← anyDirectives
    let named ← rootBlock
    if named.query.isSome then return .roots named else failure)
  <|> (do
    keyword "extend"
    keyword "schema"
    (do
      let _ ← anyDirectives
      return .roots (← rootBlock))
    <|> (do
      let _ ← directives
      return .roots {}))

/-- The places a directive may stand; of two names the longer one first. -/
def places : List String :=
  ["QUERY", "MUTATION", "SUBSCRIPTION", "FIELD_DEFINITION", "FIELD", "FRAGMENT_DEFINITION",
   "FRAGMENT_SPREAD", "INLINE_FRAGMENT", "VARIABLE_DEFINITION", "SCHEMA", "SCALAR", "OBJECT",
   "ARGUMENT_DEFINITION", "INTERFACE", "UNION", "ENUM_VALUE", "ENUM", "INPUT_OBJECT",
   "INPUT_FIELD_DEFINITION"]

/-- A place where a directive may stand. -/
def place : Reader Unit := places.foldr (fun s other => keyword s <|> other) failure

def directiveStatement : Reader Statement := do
  let _ ← optional? string
  keyword "directive"
  keyword "@"
  let _ ← name
  let _ ← optional? argumentList
  let _ ← optional? (keyword "repeatable")
  keyword "on"
  let _ ← optional? (keyword "|")
  place
  let _ ← many do
    keyword "|"
    place
  return .directive

def statement (origin : Origin) : Reader Statement :=
  schemaStatement
  <|> typeStatement origin .scalar
  <|> typeStatement origin .object
  <|> typeStatement origin .interface
  <|> typeStatement origin .union
  <|> typeStatement origin .enum
  <|> typeStatement origin .input
  <|> directiveStatement

/-- The statements of a source, at least one; none if the source is malformed. -/
def readAll? (file : String) (builtin : Bool) (text : String) : Option (List Statement) :=
  let origin : Origin := ⟨file, builtin, text.toList.count '\n'⟩
  let source : Reader (List Statement) := do
    gap
    let statements ← many1 (statement origin)
    atEnd
    return statements
  (source text.toList).map (·.1)

end Statement

end ResolverScaffold.Schema
