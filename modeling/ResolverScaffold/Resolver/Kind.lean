/-!
# Kinds of resolvers

Resolvers of one kind share a file.
-/

namespace ResolverScaffold

inductive ResolverKind where
  | query
  | mutation
  | field
  | middleware
  | webhook
  deriving DecidableEq, Repr

namespace ResolverKind

/-- The kinds in the order their files are read and written. -/
def all : List ResolverKind := [.query, .mutation, .field, .middleware, .webhook]

def word : ResolverKind → String
  | .query => "query"
  | .mutation => "mutation"
  | .field => "field"
  | .middleware => "middleware"
  | .webhook => "webhook"

end ResolverKind

end ResolverScaffold
