/-!
# Type references

How a field or an argument names its type.
-/

namespace ResolverScaffold

/-- A type as a field or argument names it. -/
structure TypeRef where
  /-- The named type inside all lists. -/
  name : String
  /-- Whether the type is a list. -/
  isArray : Bool
  /-- Whether a value has to be there. -/
  required : Bool
  deriving DecidableEq, Repr

end ResolverScaffold
