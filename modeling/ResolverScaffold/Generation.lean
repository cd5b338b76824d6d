import ResolverScaffold.Autobind
import ResolverScaffold.Code.Function
import ResolverScaffold.Code.Types
import ResolverScaffold.Render.Files
import ResolverScaffold.Settings.SchemaFiles
import ResolverScaffold.Tree.Walk

/-!
# Generation

A run reads the schema files, binds the types of the tree, recovers what people
wrote in the resolver files, renders all files and writes them.  Nothing is
written before all of them are rendered.
-/

namespace ResolverScaffold

/-- Why a run failed. -/
inductive GenerationError where
  | settings (reason : SettingsError)
  | schema (reason : Schema.Error)
  | tree (reason : WalkError)
  | binding (reason : BindError)
  | recovery (reason : RecoveryError)
  | render (reason : RenderError)
  | writing (reason : WriteError)

namespace GenerationError

def message : GenerationError → String
  | .settings reason => reason.message
  | .schema reason => reason.message
  | .tree reason => reason.message
  | .binding reason => reason.message
  | .recovery reason => reason.message
  | .render reason => reason.message
  | .writing reason => reason.message

/-- What lies behind a failure to read or write. -/
def cause? : GenerationError → Option String
  | .settings (.unreadable _ reason) => some reason.message
  | .schema (.unreadable _ reason) => some reason
  | .recovery (.unreadable _ reason) => some reason.message
  | .writing e => some e.reason.message
  | _ => none

/-- The text of the failure with what lies behind it. -/
def fullMessage (e : GenerationError) : String :=
  match e.cause? with
  | none => e.message
  | some cause => e.message ++ ": " ++ cause

end GenerationError

structure Report where
  /-- The files that were created or changed. -/
  written : List String
  /-- The files that were as they should be. -/
  unchanged : List String
  /-- The files that are never overwritten. -/
  skipped : List String
  /-- How many bodies were kept. -/
  preserved : Nat
  /-- How many functions were retained in comments. -/
  deprecated : Nat
  deriving DecidableEq, Repr

namespace Generation

/-- The tree of the schema files with all its types bound. -/
def boundTree (disk : Disk) (settings : Settings) : Except GenerationError Tree := do
  let files ← (settings.schemaFiles disk).mapError .settings
  let sources ← (files.mapM (Schema.Source.read disk)).mapError .schema
  let document ← (Schema.Document.load sources).mapError .schema
  let tree ← (Tree.ofDocument document).mapError .tree
  (Autobind.bindAll (Code.introspect disk) (.ofSettings settings) settings.bindSources
    tree).mapError .binding

/-- What was recovered and the files to write. -/
def prepare (disk : Disk) (settings : Settings) :
    Except GenerationError (Recovered × List GeneratedFile) := do
  let tree ← boundTree disk settings
  let recovered ← (Recovery.load Code.functions disk settings.resolverDir settings.resolverFiles
    tree).mapError .recovery
  let files ← (GeneratedFile.renderAll settings tree recovered).mapError .render
  return (recovered, files)

def pathsWith (outcome : WriteOutcome) (outcomes : List (String × WriteOutcome)) : List String :=
  (outcomes.filter fun o => o.2 == outcome).map (·.1)

/-- Run: the disk afterwards, and what the run did. -/
def run (disk : Disk) (settings : Settings) : Disk × Except GenerationError Report :=
  match prepare disk settings with
  | .error e => (disk, .error e)
  | .ok (recovered, files) =>
    let writing := writeAll disk files
    match writing.error with
    | some e => (writing.disk, .error (.writing e))
    | none =>
      (writing.disk, .ok {
        written := pathsWith .written writing.outcomes
        unchanged := pathsWith .unchanged writing.outcomes
        skipped := pathsWith .skipped writing.outcomes
        preserved := recovered.bodies.size
        deprecated := recovered.deprecated.size })

end Generation

end ResolverScaffold
