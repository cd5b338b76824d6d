import ResolverScaffold.Glob.Expansion
import ResolverScaffold.Schema.Document
import ResolverScaffold.Settings.Read

/-!
# Schema files

The files that the patterns of the settings stand for, each once, in the order
of the patterns.
-/

namespace ResolverScaffold

namespace Settings

/-- Paths without those that are the same as an earlier one. -/
def distinctPaths (paths : List String) : List String :=
  paths.foldl (fun kept path => if kept.any (Path.same path) then kept else kept ++ [path]) []

/-- The paths that a pattern of the settings stands for. -/
def expandPattern (disk : Disk) (s : Settings) (pattern : String) :
    Except SettingsError (List String) :=
  match Glob.Pattern.ofText? (Path.join s.root pattern).toList with
  | none => .error (.badPattern pattern)
  | some p => .ok (p.expand disk)

/-- The schema files; there is at least one. -/
def schemaFiles (disk : Disk) (s : Settings) : Except SettingsError (List String) := do
  let found ← s.schema.mapM (expandPattern disk s)
  match distinctPaths found.flatten with
  | [] => .error (.noSchemaFiles s.schema)
  | files => .ok files

end Settings

def Schema.Source.read (disk : Disk) (path : String) : Except Schema.Error Schema.Source :=
  match disk.readText path with
  | .ok text => .ok ⟨path, text⟩
  | .error reason => .error (.unreadable path reason.message)

end ResolverScaffold
