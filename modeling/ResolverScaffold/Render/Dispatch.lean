import ResolverScaffold.Render.Stub
import ResolverScaffold.Settings

/-!
# The dispatch file

The code that takes a request, runs its middleware and calls its resolver.
`Dispatch.ofTree` collects the routes and `Dispatch.render` writes the file.
-/

namespace ResolverScaffold

/-- A webhook and the function it calls. -/
structure WebhookRoute where
  type : String
  call : String
  deriving DecidableEq, Repr

/-- An argument that is decoded from a request. -/
structure ArgumentRoute where
  name : String
  /-- The variable that holds it. -/
  varName : String
  type : String
  deriving DecidableEq, Repr

/-- An operation and the function it calls. -/
structure OperationRoute where
  route : String
  arguments : List ArgumentRoute
  call : String
  deriving DecidableEq, Repr

def OperationRoute.callArguments (o : OperationRoute) : List String :=
  o.arguments.map (·.varName) ++ ["&request.auth_header"]

/-- A field and the function it calls. -/
structure FieldRoute where
  route : String
  parentType : String
  call : String
  deriving DecidableEq, Repr

structure Dispatch where
  resolverModule : String
  /-- The modules of the resolver files. -/
  resolverFiles : List String
  webhooks : List WebhookRoute
  operations : List OperationRoute
  fields : List FieldRoute
  /-- The functions that run before a route, by route. -/
  chains : Dict String (List String)
  deriving DecidableEq, Repr

namespace Dispatch

open Text (block indent inQuotes commaList)

def variableOf (argument : String) : String :=
  let ident := Naming.fieldIdentifier argument
  "arg_" ++ (Text.afterOf? "r#" ident).getD ident

def call (settings : Settings) (kind : ResolverKind) (key : String) : String :=
  settings.resolverModule kind ++ "::" ++ key

def argumentRoute (tree : Tree) (a : Parameter) : Except RenderError ArgumentRoute := do
  return { name := a.name, varName := variableOf a.name
           type := ← Render.valueType tree a.type .elsewhere }

def operationRoute (settings : Settings) (tree : Tree) (o : Operation) :
    Except RenderError OperationRoute := do
  return { route := o.route, arguments := ← o.arguments.mapM (argumentRoute tree)
           call := call settings (Stub.operationKind o.kind) o.key }

def routeOf (r : FieldResolver) : String := r.parent ++ "." ++ r.field.name

def fieldRoute (settings : Settings) (tree : Tree) (r : FieldResolver) :
    Except RenderError FieldRoute := do
  return { route := routeOf r, parentType := ← Render.baseType tree r.parent .elsewhere
           call := call settings .field r.key }

/-- Put the middleware of a route under it, if it has any. -/
def addChain (chains : Dict String (List String)) (entry : String × List String) :
    Dict String (List String) :=
  if entry.2.isEmpty then chains else chains.insert entry.1 entry.2

/-- The middleware names of every route. -/
def chainNames (tree : Tree) : Dict String (List String) :=
  (tree.operations.map (fun o => (o.route, o.middleware))
    ++ tree.fieldResolvers.values.map fun r => (routeOf r, r.middleware)).foldl addChain .empty

def ofTree (settings : Settings) (tree : Tree) : Except RenderError Dispatch := do
  let operations ← tree.operations.mapM (operationRoute settings tree)
  let fields ← tree.fieldResolvers.values.mapM (fieldRoute settings tree)
  return {
    resolverModule := settings.resolver.module
    resolverFiles := ResolverKind.all.map settings.resolverModule
    webhooks := tree.subscribed.map fun m =>
      { type := m.name, call := call settings .webhook (Stub.webhookKey m.name) }
    operations
    fields
    chains := (chainNames tree).mapValues fun _ names =>
      names.map fun name => call settings .middleware (Stub.middlewareKey name) }

/-! ### Text -/

def arm (route : String) (body : List String) : List String :=
  block (inQuotes route ++ " =>") body

def webhookLine (w : WebhookRoute) : String :=
  inQuotes w.type ++ " => " ++ w.call ++ "(event).map(|()| Value::Null),"

def argumentLine (a : ArgumentRoute) : String :=
  "let " ++ a.varName ++ ": " ++ a.type ++ " = argument(request, " ++ inQuotes a.name ++ ")?;"

def operationLines (o : OperationRoute) : List String :=
  arm o.route (o.arguments.map argumentLine
    ++ ["to_value(" ++ o.call ++ "(" ++ commaList o.callArguments ++ ")?)"])

def fieldLines (f : FieldRoute) : List String :=
  arm f.route
    ["let parents: Vec<" ++ f.parentType ++ "> = parents(request)?;",
     "to_value(" ++ f.call ++ "(&parents, &request.auth_header)?)"]

def chainLines (chain : String × List String) : List String :=
  arm chain.1 (chain.2.map (· ++ "(md)?;"))

/-- A public field that may be missing from a request. -/
def requestField (options name type : String) : List String :=
  ["#[serde(" ++ options ++ ")]", "pub " ++ name ++ ": " ++ type ++ ","]

/-- The lines before the types. -/
def headLines (d : Dispatch) : List String :=
  ["// Code generated by lambdagen. DO NOT EDIT.",
   "#![allow(non_snake_case, unused_imports, unused_variables, dead_code, clippy::match_single_binding)]",
   "",
   "use serde::de::DeserializeOwned;",
   "use serde::\x7bDeserialize, Serialize\x7d;",
   "use serde_json::\x7bMap, Value\x7d;",
   "",
   "use " ++ d.resolverModule ++ "::\x7b " ++ commaList d.resolverFiles ++ " \x7d;",
   ""]

/-- The lines of the types that every dispatch file declares. -/
def supportLines : List String :=
  ["/// Authorization header Dgraph forwards with every request",
   "#[derive(Debug, Clone, Default, PartialEq, Eq, Serialize, Deserialize)]"]
  ++ block "pub struct AuthHeader"
    (requestField "default" "key" "String" ++ requestField "default" "value" "String")
  ++ ["",
      "/// Error returned by resolvers, middleware and webhooks",
      "#[derive(Debug, Clone, PartialEq, Eq)]"]
  ++ block "pub struct LambdaError"
    ["/// HTTP status reported to Dgraph",
     "pub status: u16,",
     "pub message: String,"]
  ++ [""]
  ++ block "impl LambdaError"
    (block "pub fn new(status: u16, message: impl Into<String>) -> Self"
        (block "LambdaError" ["status,", "message: message.into(),"])
      ++ ["", "/// Placeholder result of a resolver nobody has written yet"]
      ++ block "pub fn unimplemented(resolver: &str) -> Self"
        ["LambdaError::new(501, format!(\"\x7bresolver\x7d is not implemented\"))"]
      ++ [""]
      ++ block "pub fn bad_request(message: impl Into<String>) -> Self"
        ["LambdaError::new(400, message)"])
  ++ [""]
  ++ block "impl std::fmt::Display for LambdaError"
    (block "fn fmt(&self, f: &mut std::fmt::Formatter<'_>) -> std::fmt::Result"
      ["write!(f, \"\x7b\x7d (\x7b\x7d)\", self.message, self.status)"])
  ++ ["", "impl std::error::Error for LambdaError \x7b\x7d", "",
      "/// Mutation event delivered to webhooks",
      "#[derive(Debug, Clone, Default, PartialEq, Serialize, Deserialize)]"]
  ++ block "pub struct Event"
    (requestField "rename = \"__typename\", default" "type_name" "String"
      ++ requestField "rename = \"commitTs\", default" "commit_ts" "u64"
      ++ requestField "default" "operation" "String"
      ++ requestField "default" "add" "Option<Value>"
      ++ requestField "default" "update" "Option<Value>"
      ++ requestField "default" "delete" "Option<Value>")
  ++ ["", "/// Request body Dgraph posts to the lambda server",
      "#[derive(Debug, Clone, Default, PartialEq, Serialize, Deserialize)]"]
  ++ block "pub struct Request"
    (requestField "default" "resolver" "String"
      ++ requestField "default" "args" "Map<String, Value>"
      ++ requestField "default" "parents" "Option<Value>"
      ++ requestField "rename = \"authHeader\", default" "auth_header" "AuthHeader"
      ++ requestField "rename = \"X-Dgraph-AccessToken\", default" "access_token" "String"
      ++ requestField "default" "event" "Option<Event>")
  ++ ["", "/// Request plus scratch values shared along a middleware chain",
      "#[derive(Debug, Clone, Default, PartialEq)]"]
  ++ block "pub struct MiddlewareData"
    ["pub request: Request,", "pub values: Map<String, Value>,"]
  ++ [""]
  ++ block "impl MiddlewareData"
    (block "pub fn new(request: Request) -> Self"
      (block "MiddlewareData" ["request,", "values: Map::new(),"]))
  ++ [""]

/-- The lines of the function that runs a request. -/
def executeLines (d : Dispatch) : List String :=
  ["/// Run the resolver, webhook or middleware chain a request names"]
  ++ block "pub fn execute(request: Request) -> Result<Value, LambdaError>"
    (block "if request.resolver == \"$webhook\""
        (["let event = request",
          "    .event",
          "    .as_ref()",
          "    .ok_or_else(|| LambdaError::bad_request(\"webhook request without event\"))?;",
          "return match event.type_name.as_str() \x7b"]
        ++ (d.webhooks.map webhookLine
          ++ ["other => Err(LambdaError::new(404, format!(\"no webhook for \x7bother\x7d\"))),"]).map
            indent
        ++ ["\x7d;"])
      ++ ["",
          "let mut md = MiddlewareData::new(request);",
          "run_middleware(&mut md)?;",
          "let request = &md.request;",
          ""]
      ++ block "match request.resolver.as_str()"
        (d.operations.flatMap operationLines ++ d.fields.flatMap fieldLines
          ++ ["other => Err(LambdaError::new(404, format!(\"unknown resolver \x7bother\x7d\"))),"]))
  ++ [""]

def middlewareLines (d : Dispatch) : List String :=
  block "fn run_middleware(md: &mut MiddlewareData) -> Result<(), LambdaError>"
    (["let resolver = md.request.resolver.clone();"]
      ++ block "match resolver.as_str()"
        (d.chains.entries.flatMap chainLines ++ ["_ => \x7b\x7d"])
      ++ ["Ok(())"])
  ++ [""]

/-- The lines of the functions that decode and encode. -/
def helperLines : List String :=
  block "fn argument<T: DeserializeOwned>(request: &Request, name: &str) -> Result<T, LambdaError>"
    ["let value = request.args.get(name).cloned().unwrap_or(Value::Null);",
     "serde_json::from_value(value)",
     "    .map_err(|e| LambdaError::bad_request(format!(\"invalid argument \x7bname\x7d: \x7be\x7d\")))"]
  ++ [""]
  ++ block "fn parents<T: DeserializeOwned>(request: &Request) -> Result<Vec<T>, LambdaError>"
    ["let value = request.parents.clone().unwrap_or(Value::Array(Vec::new()));",
     "serde_json::from_value(value)",
     "    .map_err(|e| LambdaError::bad_request(format!(\"invalid parents: \x7be\x7d\")))"]
  ++ [""]
  ++ block "fn to_value<T: Serialize>(value: T) -> Result<Value, LambdaError>"
    ["serde_json::to_value(value).map_err(|e| LambdaError::new(500, e.to_string()))"]

def render (d : Dispatch) : String :=
  Text.ofLines (d.headLines ++ supportLines ++ d.executeLines ++ d.middlewareLines ++ helperLines)

end Dispatch

end ResolverScaffold
