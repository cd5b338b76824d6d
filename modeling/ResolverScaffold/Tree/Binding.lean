/-!
# Bindings

A binding says which Rust type stands for a schema type: a primitive of the
language, a type somebody wrote, or a type to generate.  A binding is decided
once; `Binding.bind` leaves a decided one alone.
-/

namespace ResolverScaffold

/-- Where the Rust type of a binding comes from. -/
inductive Placement where
  /-- The type needs no declaration. -/
  | primitive
  /-- Nothing is decided yet. -/
  | pending
  /-- The type is declared by hand in this module. -/
  | external (module : String)
  /-- The type is to be declared in this module. -/
  | generated (module : String)
  deriving DecidableEq, Repr

/-- The Rust type that stands for a schema type. -/
structure Binding where
  /-- The name of the schema type. -/
  name : String
  /-- The Rust type, without its module. -/
  ident : String
  /-- Where that type comes from. -/
  placement : Placement
  deriving DecidableEq, Repr

namespace Binding

/-- The binding of a type of the language. -/
def primitive (name rustType : String) : Binding := ⟨name, rustType, .primitive⟩

def pending (name : String) : Binding := ⟨name, name, .pending⟩

/-- Whether the Rust type needs no declaration. -/
def isPrimitive (b : Binding) : Bool := b.placement == .primitive

/-- Whether the binding is decided. -/
def isResolved (b : Binding) : Bool := b.placement != .pending

/-- The module that declares the Rust type. -/
def module? (b : Binding) : Option String :=
  match b.placement with
  | .primitive | .pending => none
  | .external module | .generated module => some module

/-- Whether the Rust type was written by hand. -/
def isExternal (b : Binding) : Bool :=
  match b.placement with
  | .external _ => true
  | _ => false

/-- Whether the Rust type is to be declared by the generated model file. -/
def isGenerated (b : Binding) : Bool :=
  match b.placement with
  | .generated _ => true
  | _ => false

/-- Decide a pending binding. -/
def bind (b : Binding) (placement : Placement) : Binding :=
  if b.isResolved then b else { b with placement }

/-- The Rust type with its module in front. -/
def qualified? (b : Binding) : Option String :=
  match b.placement with
  | .primitive => some b.ident
  | .pending => none
  | .external module | .generated module => some (module ++ "::" ++ b.ident)

end Binding

end ResolverScaffold
