import ResolverScaffold.Schema.Definition

/-!
# Lifecycle events

A type subscribes to its mutations with a directive whose arguments name the
events.  Only an argument that is literally `true` counts.
-/

namespace ResolverScaffold

/-- What can happen to a value of a type. -/
inductive LifecycleEvent where
  | add
  | update
  | delete
  deriving DecidableEq, Repr

namespace LifecycleEvent

def all : List LifecycleEvent := [.add, .update, .delete]

def name : LifecycleEvent → String
  | .add => "add"
  | .update => "update"
  | .delete => "delete"

def switchedOn (d : Schema.Directive) (event : LifecycleEvent) : Bool :=
  match d.argument? event.name with
  | some (.bool true) => true
  | _ => false

def ofDirective (d : Option Schema.Directive) : List LifecycleEvent :=
  match d with
  | none => []
  | some d => all.filter (switchedOn d)

end LifecycleEvent

end ResolverScaffold
