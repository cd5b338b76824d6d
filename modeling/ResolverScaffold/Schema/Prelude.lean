import ResolverScaffold.Schema.Definition

/-!
# Built-in definitions

The scalars, enums and inputs that every schema may use without defining them.
A schema may define one of these names itself; its definition then takes the
place of the built-in one.
-/

namespace ResolverScaffold.Schema.Prelude

/-- The name that locations of built-in definitions show. -/
def fileName : String := "<builtin>"

/-- A built-in definition with nothing in it. -/
def blank (kind : Kind) (name : String) (line : Nat) : Definition :=
  { Definition.emptyObject name ⟨fileName, line⟩ with kind }

def scalar (name : String) (line : Nat) (description : Option String) : Definition :=
  { blank .scalar name line with description }

def enum (name : String) (line : Nat) (values : List String) : Definition :=
  { blank .enum name line with values := values.map (⟨·, none⟩) }

/-- A field without arguments and directives. -/
def field (name type : String) (isArray required : Bool) : Field :=
  { name, description := none, arguments := [], type := ⟨type, isArray, required⟩,
    directives := [] }

def input (name : String) (line : Nat) (fields : List Field) : Definition :=
  { blank .input name line with fields }

def definitions : List Definition :=
  [scalar "Int64" 2
     (some "The Int64 scalar type represents a signed 64-bit numeric non-fractional value."),
   scalar "Password" 7 (some "Write-only password predicate."),
   scalar "DateTime" 12
     (some "The DateTime scalar type represents date and time as a string in RFC3339 format."),
   scalar "Point" 17 none,
   scalar "Polygon" 18 none,
   scalar "MultiPolygon" 19 none,
   enum "DgraphIndex" 21
     ["int", "int64", "float", "bool", "hash", "exact", "term", "fulltext", "trigram", "regexp",
      "year", "month", "day", "hour", "geo"],
   input "AuthRule" 39
     [field "and" "AuthRule" true false, field "or" "AuthRule" true false,
      field "not" "AuthRule" false false, field "rule" "String" false false],
   enum "HTTPMethod" 46 ["GET", "POST", "PUT", "PATCH", "DELETE"],
   enum "Mode" 54 ["BATCH", "SINGLE"],
   input "CustomHTTP" 59
     [field "url" "String" false true, field "method" "HTTPMethod" false true,
      field "body" "String" false false, field "graphql" "String" false false,
      field "mode" "Mode" false false, field "forwardHeaders" "String" true false,
      field "secretHeaders" "String" true false, field "introspectionHeaders" "String" true false,
      field "skipIntrospection" "Boolean" false false],
   input "GenerateQueryParams" 71
     [field "get" "Boolean" false false, field "query" "Boolean" false false,
      field "password" "Boolean" false false, field "aggregate" "Boolean" false false],
   input "GenerateMutationParams" 78
     [field "add" "Boolean" false false, field "update" "Boolean" false false,
      field "delete" "Boolean" false false]]

theorem nodup_names : (definitions.map (·.name)).Nodup := by decide

end ResolverScaffold.Schema.Prelude
