import ResolverScaffold.Render.Dispatch
import ResolverScaffold.Render.ModelFile
import ResolverScaffold.Render.ResolverFile

/-!
# Generated files

All files of a project: the model file, a file for each kind of resolvers, the
dispatch file and the list of resolver modules.  `write` puts them on a disk
and leaves alone what is right already; the list of modules is written only
where none is there.
-/

namespace ResolverScaffold

/-- A file to write. -/
structure GeneratedFile where
  path : String
  contents : String
  /-- Whether a file that is there is replaced. -/
  overwrite : Bool
  deriving DecidableEq, Repr

inductive WriteOutcome where
  | written
  /-- The file was right already. -/
  | unchanged
  /-- The file was there and is not to be replaced. -/
  | skipped
  deriving DecidableEq, Repr

/-- Why a file could not be written. -/
structure WriteError where
  path : String
  reason : IoError
  deriving DecidableEq, Repr

def WriteError.message (e : WriteError) : String :=
  "failed to write " ++ Text.quotePath e.path ++ ": " ++ e.reason.message

namespace GeneratedFile

def ofResolvers (settings : Settings) (tree : Tree) (stubs : List Stub) (recovered : Recovered)
    (kind : ResolverKind) : GeneratedFile :=
  { path := settings.resolverFile kind
    contents := (ResolverFile.ofKind settings tree stubs recovered kind).render
    overwrite := true }

def moduleList (settings : Settings) : GeneratedFile :=
  { path := Path.join settings.resolverDir "mod.rs"
    contents := Text.ofLines
      ("// Resolver modules. lambdagen only writes this file when it is missing."
        :: ResolverKind.all.map fun kind => "pub mod " ++ settings.resolverModule kind ++ ";")
    overwrite := false }

def renderAll (settings : Settings) (tree : Tree) (recovered : Recovered) :
    Except RenderError (List GeneratedFile) := do
  let models ← ModelFile.ofTree tree
  let stubs ← Stub.all tree
  let dispatch ← Dispatch.ofTree settings tree
  return { path := settings.modelFile, contents := models.render, overwrite := true }
    :: ResolverKind.all.map (ofResolvers settings tree stubs recovered)
    ++ [{ path := settings.execFile, contents := dispatch.render, overwrite := true },
        moduleList settings]

def makeParent (disk : Disk) (file : GeneratedFile) : Disk × Option WriteError :=
  match Path.parent? file.path with
  | none => (disk, none)
  | some parent =>
    let (made, failure) := disk.makeDirectories parent
    (made, failure.map fun reason => ⟨parent, reason⟩)

/-- Write a file and the directories on the way to it: the disk afterwards, and what went
wrong. -/
def store (disk : Disk) (file : GeneratedFile) : Disk × Option WriteError :=
  match file.makeParent disk with
  | (made, some e) => (made, some e)
  | (made, none) =>
    let (stored, failure) := made.save file.path file.contents
    (stored, failure.map fun reason => ⟨file.path, reason⟩)

/-- Whether a file holds the contents it should. -/
def isCurrent (disk : Disk) (file : GeneratedFile) : Bool :=
  match disk.readText file.path with
  | .ok text => text == file.contents
  | .error _ => false

/-- Write a file where that changes something: the disk afterwards, and what became of the
file. -/
def write (disk : Disk) (file : GeneratedFile) : Disk × Except WriteError WriteOutcome :=
  if disk.exists? file.path && !file.overwrite then (disk, .ok .skipped)
  else if file.isCurrent disk then (disk, .ok .unchanged)
  else
    match file.store disk with
    | (written, none) => (written, .ok .written)
    | (written, some e) => (written, .error e)

end GeneratedFile

/-- How far writing got. -/
structure Writing where
  disk : Disk
  outcomes : List (String × WriteOutcome)
  /-- What stopped it. -/
  error : Option WriteError

/-- Write files one after the other up to the first that cannot be written. -/
def writeAll (disk : Disk) : List GeneratedFile → Writing
  | [] => ⟨disk, [], none⟩
  | file :: rest =>
    match file.write disk with
    | (written, .error e) => ⟨written, [], some e⟩
    | (written, .ok outcome) =>
      let later := writeAll written rest
      { later with outcomes := (file.path, outcome) :: later.outcomes }

end ResolverScaffold
