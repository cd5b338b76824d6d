import ResolverScaffold.Package
import ResolverScaffold.Settings
import ResolverScaffold.Tree.Basic

/-!
# Binding types

Every pending binding of a tree is decided: by the first listed source that
declares the type, else by a declaration somebody wrote beside the generated
model file, else the type is to be generated.  A binding that is decided
already is left alone.
-/

namespace ResolverScaffold

structure ModelHome where
  module : String
  dir : String
  /-- The name of the generated file in the directory. -/
  generatedFile : String
  generatedModule : String
  deriving DecidableEq, Repr

/-- Where settings keep generated models. -/
def ModelHome.ofSettings (s : Settings) : ModelHome :=
  { module := s.model.module, dir := s.modelDir, generatedFile := s.modelFileName,
    generatedModule := s.modelFileModule }

/-- Why the types of a tree could not be bound. -/
inductive BindError where
  /-- A listed source could not be loaded. -/
  | sourceUnavailable (module path : String) (reason : IntrospectError)
  /-- The directory of the models could not be loaded. -/
  | homeUnavailable (path reason : String)
  /-- A type has no binding. -/
  | unbound (name usedBy : String)
  deriving DecidableEq, Repr

def BindError.message : BindError → String
  | .sourceUnavailable module path reason =>
    "could not load autobind source " ++ module ++ " at " ++ Text.quotePath path ++ ": "
      ++ reason.message
  | .homeUnavailable path reason =>
    "could not load generated model location " ++ Text.quotePath path ++ ": " ++ reason
  | .unbound name usedBy =>
    "type " ++ name ++ " used by " ++ usedBy ++ " could not be bound to any location"

namespace Autobind

/-- Load the listed sources, those of the generated models left out. -/
def loadSources (introspect : Introspector) (home : ModelHome) (sources : List BindSource) :
    Except BindError (List Package) :=
  (sources.filter fun s => s.module ≠ home.module ∧ s.module ≠ home.generatedModule).mapM fun s =>
    match introspect s.module s.path with
    | .ok package => .ok package
    | .error reason => .error (.sourceUnavailable s.module s.path reason)

/-- Load the directory of the models; it need not be there. -/
def loadHome (introspect : Introspector) (home : ModelHome) : Except BindError Package :=
  match introspect home.module home.dir with
  | .ok package => .ok package
  | .error .missing => .ok (.empty home.module)
  | .error (.invalid reason) => .error (.homeUnavailable home.dir reason)

def placement (home : ModelHome) (listed : List Package) (own : Package) (name : String) :
    Placement :=
  match listed.findSome? (·.declares? name) with
  | some d => .external d.module
  | none =>
    match (own.declarationsOf name).find? (·.fileName ≠ home.generatedFile) with
    | some d => .external d.module
    | none => .generated home.generatedModule

/-- The tree with every pending binding decided. -/
def decideAll (home : ModelHome) (listed : List Package) (own : Package) (tree : Tree) : Tree :=
  { tree with
    bindings := tree.bindings.mapValues fun _ b => b.bind (placement home listed own b.name) }

def isBound (tree : Tree) (name : String) : Bool := (tree.bindings.get? name).any (·.isResolved)

/-- The first type without a decided binding. -/
def unbound? (tree : Tree) : Option BindError :=
  match tree.references.find? fun r => !isBound tree r.2.name with
  | some (usedBy, type) => some (.unbound type.name usedBy)
  | none =>
    match tree.bindings.values.find? fun b => !b.isResolved with
    | some b => some (.unbound b.name "schema")
    | none => none

/-- Bind the types of a tree: the tree afterwards, and what went wrong.  Nothing changes where
a package could not be loaded. -/
def bind (introspect : Introspector) (home : ModelHome) (sources : List BindSource)
    (tree : Tree) : Tree × Option BindError :=
  match loadSources introspect home sources with
  | .error e => (tree, some e)
  | .ok listed =>
    match loadHome introspect home with
    | .error e => (tree, some e)
    | .ok own =>
      let bound := decideAll home listed own tree
      (bound, unbound? bound)

/-- The bound tree, if nothing went wrong. -/
def bindAll (introspect : Introspector) (home : ModelHome) (sources : List BindSource)
    (tree : Tree) : Except BindError Tree :=
  match bind introspect home sources tree with
  | (bound, none) => .ok bound
  | (_, some e) => .error e

end Autobind

end ResolverScaffold
