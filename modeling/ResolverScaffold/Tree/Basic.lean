import ResolverScaffold.Annotation.Lifecycle
import ResolverScaffold.Dict
import ResolverScaffold.Tree.Binding
import ResolverScaffold.TypeRef

/-!
# The type tree

A `Tree` is what a schema needs code for: an entry for each type that has to be
represented, the resolvers somebody has to write, the middleware names, and one
binding for each type name.
-/

namespace ResolverScaffold

structure Field where
  name : String
  description : Option String
  type : TypeRef
  /-- The name of the field in the database. -/
  predicate : String
  deriving DecidableEq, Repr

/-- The name in the database of a field of a type. -/
def Field.predicateOf (parent field : String) : String :=
  if field = "id" then "uid" else parent ++ "." ++ field

/-- An object or input. -/
structure Model where
  name : String
  description : Option String
  fields : List Field
  /-- The interfaces and unions the type belongs to. -/
  implements : List String
  /-- The events it is subscribed to. -/
  events : List LifecycleEvent
  deriving DecidableEq, Repr

/-- An interface or union. -/
structure Interface where
  name : String
  description : Option String
  isUnion : Bool
  fields : List Field
  deriving DecidableEq, Repr

structure Enum where
  name : String
  description : Option String
  values : List Schema.EnumValue
  deriving DecidableEq, Repr

/-- A scalar that is not primitive. -/
structure Scalar where
  name : String
  description : Option String
  deriving DecidableEq, Repr

/-- A type that has to be represented. -/
inductive Entry where
  | model (m : Model)
  | interface (i : Interface)
  | enum (e : Enum)
  | scalar (s : Scalar)
  deriving DecidableEq, Repr

namespace Entry

def name : Entry → String
  | .model m => m.name
  | .interface i => i.name
  | .enum e => e.name
  | .scalar s => s.name

def model? : Entry → Option Model
  | .model m => some m
  | _ => none

def interface? : Entry → Option Interface
  | .interface i => some i
  | _ => none

def enum? : Entry → Option Enum
  | .enum e => some e
  | _ => none

def scalar? : Entry → Option Scalar
  | .scalar s => some s
  | _ => none

end Entry

/-- A field somebody has to resolve. -/
structure FieldResolver where
  /-- The type that has the field. -/
  parent : String
  field : Field
  middleware : List String
  deriving DecidableEq, Repr

def FieldResolver.keyOf (parent field : String) : String := parent ++ "_" ++ field

def FieldResolver.key (r : FieldResolver) : String := keyOf r.parent r.field.name

inductive OperationKind where
  | query
  | mutation
  deriving DecidableEq, Repr

/-- The name of a kind of operations, as keys and routes show it. -/
def OperationKind.title : OperationKind → String
  | .query => "Query"
  | .mutation => "Mutation"

structure Parameter where
  name : String
  type : TypeRef
  deriving DecidableEq, Repr

/-- A query or mutation somebody has to resolve. -/
structure Operation where
  kind : OperationKind
  name : String
  description : Option String
  arguments : List Parameter
  returns : TypeRef
  middleware : List String
  deriving DecidableEq, Repr

def Operation.key (o : Operation) : String := o.kind.title ++ "_" ++ o.name

def Operation.route (o : Operation) : String := o.kind.title ++ "." ++ o.name

/-- What a schema needs code for. -/
structure Tree where
  /-- The types that have to be represented, by name. -/
  entries : Dict String Entry
  /-- The fields that have to be resolved, by key. -/
  fieldResolvers : Dict String FieldResolver
  /-- The queries that have to be resolved, by name. -/
  queries : Dict String Operation
  /-- The mutations that have to be resolved, by name. -/
  mutations : Dict String Operation
  /-- The middleware names. -/
  middleware : NameSet
  /-- The bindings, by name. -/
  bindings : Dict String Binding
  deriving DecidableEq, Repr

namespace Tree

def empty : Tree := ⟨.empty, .empty, .empty, .empty, .empty, .empty⟩

instance : Inhabited Tree := ⟨empty⟩

def models (t : Tree) : List Model := t.entries.values.filterMap Entry.model?

/-- The interfaces and unions, by name. -/
def interfaces (t : Tree) : List Interface := t.entries.values.filterMap Entry.interface?

def enums (t : Tree) : List Enum := t.entries.values.filterMap Entry.enum?

def scalars (t : Tree) : List Scalar := t.entries.values.filterMap Entry.scalar?

/-- The models that are subscribed to events. -/
def subscribed (t : Tree) : List Model := t.models.filter fun m => !m.events.isEmpty

/-- The queries and then the mutations. -/
def operations (t : Tree) : List Operation := t.queries.values ++ t.mutations.values

def fieldReferences (owner : String) (fields : List Field) : List (String × TypeRef) :=
  fields.map fun f => (owner ++ "." ++ f.name, f.type)

/-- The references of an operation: what it returns and then its arguments. -/
def operationReferences (o : Operation) : List (String × TypeRef) :=
  (o.route, o.returns) :: o.arguments.map fun a => (o.route ++ "(" ++ a.name ++ ")", a.type)

/-- Every type reference with the place that uses it. -/
def references (t : Tree) : List (String × TypeRef) :=
  t.models.flatMap (fun m => fieldReferences m.name m.fields)
    ++ t.interfaces.flatMap (fun i => fieldReferences i.name i.fields)
    ++ t.operations.flatMap operationReferences

end Tree

end ResolverScaffold
