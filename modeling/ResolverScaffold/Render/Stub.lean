import ResolverScaffold.Naming
import ResolverScaffold.Render.TypeName
import ResolverScaffold.Resolver.Recovery
import ResolverScaffold.Text.Layout

/-!
# Stubs

A stub is a function somebody has to write: its name, its doc comments and its
head.  Its body is the one that was recovered, or one that does nothing yet.
-/

namespace ResolverScaffold

/-- A function somebody has to write. -/
structure Stub where
  /-- The name of the function. -/
  key : String
  kind : ResolverKind
  /-- The doc comments. -/
  docs : List String
  /-- The text up to the opening brace. -/
  header : String
  /-- The body until one is written. -/
  defaultBody : String
  deriving DecidableEq, Repr

namespace Stub

def body (s : Stub) (recovered : Recovered) : String :=
  (recovered.bodies.get? s.key).getD s.defaultBody

def code (s : Stub) (recovered : Recovered) : String :=
  s.header ++ s.body recovered ++ "\x7d"

/-- The body of a resolver nobody has written. -/
def unimplementedBody (key : String) : String :=
  "\n    Err(LambdaError::unimplemented(\"" ++ key ++ "\"))\n"

/-- The body of a function that has nothing to do. -/
def okBody : String := "\n    Ok(())\n"

def head (key parameters result : String) : String :=
  "pub fn " ++ key ++ "(" ++ parameters ++ ") -> Result<" ++ result ++ ", LambdaError> \x7b"

def operationKind : OperationKind → ResolverKind
  | .query => .query
  | .mutation => .mutation

def parameter (tree : Tree) (a : Parameter) : Except RenderError String := do
  return Naming.fieldIdentifier a.name ++ ": " ++ (← Render.valueType tree a.type .elsewhere)

def ofOperation (tree : Tree) (o : Operation) : Except RenderError Stub := do
  let parameters ← o.arguments.mapM (parameter tree)
  let result ← Render.valueType tree o.returns .elsewhere
  return {
    key := o.key
    kind := operationKind o.kind
    docs := Naming.docLines o.description
    header := head o.key (Text.commaList (parameters ++ ["auth_header: &AuthHeader"])) result
    defaultBody := unimplementedBody o.key }

/-- The stub of a field resolver, which is given all parents at once. -/
def ofField (tree : Tree) (r : FieldResolver) : Except RenderError Stub := do
  let parent ← Render.baseType tree r.parent .elsewhere
  let result ← Render.valueType tree r.field.type .elsewhere
  return {
    key := r.key
    kind := .field
    docs := Naming.docLines r.field.description
    header := head r.key ("parents: &[" ++ parent ++ "], auth_header: &AuthHeader")
      ("Vec<" ++ result ++ ">")
    defaultBody := unimplementedBody r.key }

def middlewareKey (name : String) : String := "Middleware_" ++ name

def ofMiddleware (name : String) : Stub :=
  { key := middlewareKey name
    kind := .middleware
    docs := []
    header := head (middlewareKey name) "md: &mut MiddlewareData" "()"
    defaultBody := okBody }

def webhookKey (type : String) : String := "Webhook_" ++ type

def ofWebhook (m : Model) : Stub :=
  { key := webhookKey m.name
    kind := .webhook
    docs := ["/// Called after " ++ Text.commaList (m.events.map (·.name)) ++ " of " ++ m.name]
    header := head (webhookKey m.name) "event: &Event" "()"
    defaultBody := okBody }

/-- All stubs of a tree: queries, mutations, fields, middleware, webhooks. -/
def all (tree : Tree) : Except RenderError (List Stub) := do
  let queries ← tree.queries.values.mapM (ofOperation tree)
  let mutations ← tree.mutations.values.mapM (ofOperation tree)
  let fields ← tree.fieldResolvers.values.mapM (ofField tree)
  return queries ++ mutations ++ fields ++ tree.middleware.names.map ofMiddleware
    ++ tree.subscribed.map ofWebhook

end Stub

end ResolverScaffold
