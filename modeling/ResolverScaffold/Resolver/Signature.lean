import ResolverScaffold.Resolver.Kind
import ResolverScaffold.Text.Lines
import ResolverScaffold.Tree.Basic

/-!
# Signatures

The name of a function says what it resolves: `Query_user`, `User_name`,
`Middleware_auth`.  `Signature.classify` reads a name against a tree, whose
field resolvers come first; `Signature.key` gives the name back.
-/

namespace ResolverScaffold

/-- What a function resolves. -/
inductive Signature where
  | query (name : String)
  | mutation (name : String)
  | middleware (name : String)
  | webhook (type : String)
  | field (parent name : String)
  | unrecognized (name : String)
  deriving DecidableEq, Repr

namespace Signature

/-- What follows a beginning, if something does. -/
def rest? (beginning name : List Char) : Option String :=
  match Text.after? beginning name with
  | some (c :: cs) => some (String.ofList (c :: cs))
  | _ => none

/-- What a name says by itself: one of the four beginnings, or a parent and a field around the
first underscore. -/
def ofName (name : String) : Signature :=
  let cs := name.toList
  match rest? "Query_".toList cs with
  | some rest => .query rest
  | none =>
    match rest? "Mutation_".toList cs with
    | some rest => .mutation rest
    | none =>
      match rest? "Middleware_".toList cs with
      | some rest => .middleware rest
      | none =>
        match rest? "Webhook_".toList cs with
        | some rest => .webhook rest
        | none =>
          match cs.takeWhile (· ≠ '_'), cs.dropWhile (· ≠ '_') with
          | p :: parent, _ :: n :: name =>
            .field (String.ofList (p :: parent)) (String.ofList (n :: name))
          | _, _ => .unrecognized name

/-- What a name says in a tree.  A key of a field resolver names that field. -/
def classify (name : String) (tree : Tree) : Signature :=
  match tree.fieldResolvers.get? name with
  | some r => .field r.parent r.field.name
  | none => ofName name

def key : Signature → String
  | .query name => "Query_" ++ name
  | .mutation name => "Mutation_" ++ name
  | .middleware name => "Middleware_" ++ name
  | .webhook type => "Webhook_" ++ type
  | .field parent name => FieldResolver.keyOf parent name
  | .unrecognized name => name

/-- Whether the tree asks for the function. -/
def isLive (s : Signature) (tree : Tree) : Bool :=
  match s with
  | .query name => tree.queries.contains name
  | .mutation name => tree.mutations.contains name
  | .middleware name => tree.middleware.contains name
  | .webhook type =>
    match tree.entries.get? type with
    | some (.model m) => !m.events.isEmpty
    | _ => false
  | .field parent name => tree.fieldResolvers.contains (FieldResolver.keyOf parent name)
  | .unrecognized _ => false

/-- The kind of the function, which says in which file it stands. -/
def kind : Signature → ResolverKind
  | .query _ => .query
  | .mutation _ => .mutation
  | .middleware _ => .middleware
  | .webhook _ => .webhook
  | .field _ _ | .unrecognized _ => .field

end Signature

end ResolverScaffold
