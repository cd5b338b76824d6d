import ResolverScaffold.Settings.Read
import ResolverScaffold.Text.Layout

/-!
# Starter settings

The settings file that a new project starts with.
-/

namespace ResolverScaffold

/-- Why starter settings could not be written. -/
inductive StarterError where
  /-- There is a file already. -/
  | exists (path : String)
  /-- The file could not be written. -/
  | io (reason : IoError)
  deriving DecidableEq, Repr

def StarterError.message : StarterError → String
  | .exists path => Text.quotePath path ++ " already exists (use --force to overwrite)"
  | .io reason => reason.message

namespace Settings

/-- The lines of the starter settings for a pattern of schema files. -/
def starterLines (pattern : String) : List String :=
  ["# lambdagen configuration",
   "#",
   "# Paths are relative to this file.",
   "",
   "schema:",
   "  - \"" ++ pattern ++ "\"",
   "",
   "# Dispatch layer: support types and the resolver router. Fully regenerated.",
   "exec:",
   "  filename: src/lambda/generated/generated.rs",
   "  module: crate::lambda::generated",
   "",
   "# Default location for generated model types. Types declared by hand in any",
   "# other file of this directory are used instead of being generated.",
   "model:",
   "  filename: src/lambda/model/models_gen.rs",
   "  module: crate::lambda::model",
   "",
   "# Resolver stubs. Function bodies survive regeneration.",
   "resolver:",
   "  dir: src/lambda/resolvers",
   "  module: crate::lambda::resolvers",
   "  filename_template: \"" ++ usualTemplate ++ "\"",
   "",
   "# Modules searched, in order, for existing types before generating them.",
   "autobind: []"]

def starterText (pattern : String) : String := "\n".intercalate (starterLines pattern)

/-- The pattern of schema files in the starter settings. -/
def starterPattern : String := "schema/*.graphql"

/-- Write the starter settings, over a file that is there only if told so: the disk afterwards,
and what went wrong. -/
def writeStarter (disk : Disk) (path : String) (force : Bool) : Disk × Option StarterError :=
  if disk.exists? path && !force then (disk, some (.exists path))
  else
    let (made, failure) := disk.makeDirectories ((Path.parent? path).getD "")
    match failure with
    | some reason => (made, some (.io reason))
    | none =>
      let (written, failure) := made.save path (starterText starterPattern)
      (written, failure.map .io)

end Settings

end ResolverScaffold
