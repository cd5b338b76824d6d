import ResolverScaffold.Dict
import ResolverScaffold.Path

/-!
# Packages

A package is what a source location declares: for each type name its
declarations, in the order they were found.  An `Introspector` loads the
package at a path; binding works with any of them.
-/

namespace ResolverScaffold

/-- Where a type is declared. -/
structure Declaration where
  module : String
  file : String
  deriving DecidableEq, Repr

/-- The name of the file without its directory. -/
def Declaration.fileName (d : Declaration) : String := (Path.fileName? d.file).getD ""

/-- The types a source location declares. -/
structure Package where
  /-- The module of the location. -/
  module : String
  /-- The declarations of each name, first one first. -/
  declarations : Dict String (List Declaration)

namespace Package

/-- A package that declares nothing. -/
def empty (module : String) : Package := ⟨module, .empty⟩

def declarationsOf (p : Package) (name : String) : List Declaration :=
  (p.declarations.get? name).getD []

/-- Add a declaration after those the name has. -/
def declare (p : Package) (name : String) (d : Declaration) : Package :=
  { p with declarations := p.declarations.insert name (p.declarationsOf name ++ [d]) }

/-- The first declaration of a name. -/
def declares? (p : Package) (name : String) : Option Declaration := (p.declarationsOf name).head?

/-- How many names are declared. -/
def size (p : Package) : Nat := p.declarations.size

def isEmpty (p : Package) : Bool := p.declarations.isEmpty

end Package

/-- Why a package could not be loaded. -/
inductive IntrospectError where
  /-- There is nothing at the path. -/
  | missing
  /-- What is there could not be read. -/
  | invalid (reason : String)
  deriving DecidableEq, Repr

def IntrospectError.message : IntrospectError → String
  | .missing => "location does not exist"
  | .invalid reason => reason

/-- Loads the package of a module at a path. -/
abbrev Introspector := (module path : String) → Except IntrospectError Package

end ResolverScaffold
