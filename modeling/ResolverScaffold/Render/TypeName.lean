import ResolverScaffold.Tree.Basic

/-!
# Rust types of schema types

How a type reference is written in Rust: with `Vec` for a list, `Option` where
a value may be missing, and `Box` around a model or interface inside a model.
-/

namespace ResolverScaffold

/-- Why code could not be rendered. -/
inductive RenderError where
  /-- A type has no decided binding. -/
  | unresolvedType (name : String)
  deriving DecidableEq, Repr

def RenderError.message : RenderError → String
  | .unresolvedType name => "type " ++ name ++ " has no binding"

namespace Render

inductive Scope where
  /-- Inside the model file, where generated types need no module. -/
  | models
  | elsewhere
  deriving DecidableEq, Repr

def baseType (tree : Tree) (name : String) (scope : Scope) : Except RenderError String :=
  match tree.bindings.get? name with
  | none => .error (.unresolvedType name)
  | some b =>
    match b.qualified? with
    | none => .error (.unresolvedType name)
    | some qualified => .ok (if scope = .models ∧ b.isGenerated then b.ident else qualified)

def isComposite (tree : Tree) (name : String) : Bool :=
  (match tree.entries.get? name with
    | some (.model _) | some (.interface _) => true
    | _ => false)
  && !(tree.bindings.get? name).any (·.isPrimitive)

/-- A type whose value may be missing. -/
def optional (type : String) (required : Bool) : String :=
  if required then type else "Option<" ++ type ++ ">"

def valueType (tree : Tree) (type : TypeRef) (scope : Scope) : Except RenderError String := do
  let base ← baseType tree type.name scope
  return optional (if type.isArray then "Vec<" ++ base ++ ">" else base) type.required

def fieldType (tree : Tree) (type : TypeRef) (scope : Scope) : Except RenderError String := do
  let base ← baseType tree type.name scope
  let inner :=
    if type.isArray then "Vec<" ++ base ++ ">"
    else if isComposite tree type.name then "Box<" ++ base ++ ">"
    else base
  return optional inner type.required

end Render

end ResolverScaffold
