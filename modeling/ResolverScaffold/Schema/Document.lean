import ResolverScaffold.Schema.Prelude
import ResolverScaffold.Schema.Statement
import ResolverScaffold.Schema.Table
import ResolverScaffold.Text.Quoted

/-!
# Schema documents

A `Document` is the merged schema: its definitions in the order of their first
appearance, each name once, and the names of its root types.  `Document.load`
reads sources one after the other into a `Draft` and then settles the roots.
-/

namespace ResolverScaffold.Schema

/-- A named schema text. -/
structure Source where
  name : String
  text : String
  deriving DecidableEq, Repr

/-- Why a schema could not be loaded. -/
inductive Error where
  /-- A schema file could not be read. -/
  | unreadable (path reason : String)
  /-- A source is malformed. -/
  | syntaxError (file : String)
  /-- A type is defined twice. -/
  | duplicate (name : String) (first second : Location)
  /-- A schema block names a type that is not defined. -/
  | missingRoot (root name : String)
  deriving DecidableEq, Repr

def Error.message : Error → String
  | .unreadable path reason => "unable to read schema " ++ Text.quotePath path ++ ": " ++ reason
  | .syntaxError file => "syntax error in schema " ++ file
  | .duplicate name first second =>
    "type " ++ name ++ " is defined twice: " ++ first.text ++ " and " ++ second.text
  | .missingRoot root name => "schema root " ++ root ++ " refers to undefined type " ++ name

/-- The merged schema. -/
structure Document extends Table where
  /-- The name of the query root. -/
  query : String
  mutation : Option String
  subscription : Option String

namespace Document

/-- The definition of a name, found by its position. -/
def get? (doc : Document) (name : String) : Option Definition := doc.toTable.get? name

/-- Whether a name is the query or the mutation root. -/
def isOperationRoot (doc : Document) (name : String) : Bool :=
  doc.query == name || doc.mutation == some name

def unionsContaining (doc : Document) (name : String) : List String :=
  (doc.definitions.filter fun d => d.kind == .union && d.members.contains name).map (·.name)

/-- The objects that implement an interface. -/
def implementors (doc : Document) (name : String) : List String :=
  (doc.definitions.filter fun d => d.kind == .object && d.implements.contains name).map (·.name)

end Document

/-- A schema while its sources are read. -/
structure Draft extends Table where
  roots : Roots

namespace Draft

def initial : Draft := { toTable := .ofList Prelude.definitions Prelude.nodup_names, roots := {} }

def update (draft : Draft) (name : String) (f : Definition → Definition)
    (hf : ∀ d, d.name = name → (f d).name = name) : Draft :=
  { draft with toTable := draft.toTable.update name f hf }

/-- Add a definition of a new name at the end. -/
def append (draft : Draft) (d : Definition) (hNew : draft.get? d.name = none) : Draft :=
  { draft with toTable := draft.push d hNew }

/-- Add a definition.  It takes the place of a built-in one of the same name. -/
def define (draft : Draft) (d : Definition) : Except Error Draft :=
  match hGet : draft.get? d.name with
  | none => .ok (draft.append d hGet)
  | some existing =>
    if existing.builtin && !d.builtin then .ok (draft.update d.name (fun _ => d) fun _ _ => rfl)
    else .error (.duplicate d.name existing.location d.location)

/-- Add what an extension says to the definition of its name; without one the extension is
the definition. -/
def extend (draft : Draft) (d : Definition) : Draft :=
  match hGet : draft.get? d.name with
  | none => draft.append d hGet
  | some _ => draft.update d.name (·.extend d) fun e hName => (e.name_extend d).trans hName

/-- The roots that a schema block names replace those named before. -/
def setRoots (draft : Draft) (roots : Roots) : Draft :=
  { draft with roots :=
      { query := roots.query <|> draft.roots.query
        mutation := roots.mutation <|> draft.roots.mutation
        subscription := roots.subscription <|> draft.roots.subscription } }

def add (draft : Draft) : Statement → Except Error Draft
  | .roots roots => .ok (draft.setRoots roots)
  | .define d => draft.define d
  | .extend d => .ok (draft.extend d)
  | .directive => .ok draft

def addSource (draft : Draft) (source : Source) : Except Error Draft :=
  match Statement.readAll? source.name false source.text with
  | none => .error (.syntaxError source.name)
  | some statements => statements.foldlM add draft

/-- A root that a schema block may name; otherwise the type with the usual name, if there is
one. -/
def rootOr (draft : Draft) (root usual : String) : Option String → Except Error (Option String)
  | some name => if draft.defines name then .ok (some name) else .error (.missingRoot root name)
  | none => .ok (if draft.defines usual then some usual else none)

/-- The query root of a schema that has none. -/
def emptyQuery : Definition := .emptyObject "Query" ⟨Prelude.fileName, 0⟩

/-- The query root, with an empty one added where there is none. -/
def settleQuery (draft : Draft) : Except Error (Draft × String) :=
  match draft.roots.query with
  | some name =>
    if draft.defines name then .ok (draft, name) else .error (.missingRoot "query" name)
  | none =>
    match hGet : draft.get? emptyQuery.name with
    | some _ => .ok (draft, emptyQuery.name)
    | none => .ok (draft.append emptyQuery hGet, emptyQuery.name)

def finish (draft : Draft) : Except Error Document := do
  let (draft, query) ← draft.settleQuery
  let mutation ← draft.rootOr "mutation" "Mutation" draft.roots.mutation
  let subscription ← draft.rootOr "subscription" "Subscription" draft.roots.subscription
  return { draft with query, mutation, subscription }

end Draft

def Document.load (sources : List Source) : Except Error Document := do
  (← sources.foldlM Draft.addSource Draft.initial).finish

end ResolverScaffold.Schema
