import ResolverScaffold.TypeRef
import ResolverScaffold.Value

/-!
# Schema definitions

The named types of a schema as they are written: their fields, directives and
relations to other types.  A definition of any kind carries all lists, since an
extension may add to a list that the kind itself does not use.
-/

namespace ResolverScaffold.Schema

/-- The kinds of named types. -/
inductive Kind where
  | object
  | input
  | interface
  | union
  | enum
  | scalar
  deriving DecidableEq, Repr

/-- Where a definition stands. -/
structure Location where
  /-- The name of the source. -/
  file : String
  /-- The line, counted from one. -/
  line : Nat
  deriving DecidableEq, Repr

/-- A location as messages show it. -/
def Location.text (l : Location) : String := l.file ++ ":" ++ toString l.line

/-- A directive put on a definition or a field. -/
structure Directive where
  name : String
  /-- The arguments as they are written, repeated ones included. -/
  arguments : List (String × Value)
  deriving Repr

/-- The value of an argument, the first of that name. -/
def Directive.argument? (d : Directive) (name : String) : Option Value :=
  (d.arguments.find? (·.1 == name)).map (·.2)

structure Argument where
  name : String
  description : Option String
  type : TypeRef
  deriving DecidableEq, Repr

/-- A field of an object, an interface or an input. -/
structure Field where
  name : String
  description : Option String
  arguments : List Argument
  type : TypeRef
  directives : List Directive
  deriving Repr

/-- The directive that asks for a resolver. -/
def resolverDirective : String := "lambda"

/-- The directive that subscribes a type to its mutations. -/
def webhookDirective : String := "lambdaOnMutate"

/-- Whether the field asks for a resolver. -/
def Field.hasResolver (f : Field) : Bool := f.directives.any (·.name == resolverDirective)

structure EnumValue where
  name : String
  description : Option String
  deriving DecidableEq, Repr

/-- A named type. -/
structure Definition where
  name : String
  kind : Kind
  description : Option String
  directives : List Directive
  fields : List Field
  /-- The interfaces the type implements. -/
  implements : List String
  /-- The members of a union. -/
  members : List String
  values : List EnumValue
  location : Location
  /-- Whether the type is part of every schema. -/
  builtin : Bool
  deriving Repr

namespace Definition

/-- The first directive of a name. -/
def directive? (d : Definition) (name : String) : Option Directive :=
  d.directives.find? (·.name == name)

/-- Whether the type or one of its fields asks for code. -/
def hasResolver (d : Definition) : Bool :=
  (d.directive? webhookDirective).isSome || d.fields.any Field.hasResolver

/-- The definition with all that an extension adds. -/
def extend (d extension : Definition) : Definition :=
  { d with
    fields := d.fields ++ extension.fields
    implements := d.implements ++ extension.implements
    members := d.members ++ extension.members
    values := d.values ++ extension.values
    directives := d.directives ++ extension.directives }

theorem name_extend (d extension : Definition) : (d.extend extension).name = d.name := rfl

/-- An object that is part of every schema and has nothing in it. -/
def emptyObject (name : String) (location : Location) : Definition :=
  { name, kind := .object, description := none, directives := [], fields := [],
    implements := [], members := [], values := [], location, builtin := true }

end Definition

end ResolverScaffold.Schema
