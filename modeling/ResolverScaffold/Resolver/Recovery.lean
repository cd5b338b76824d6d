import ResolverScaffold.Resolver.RetainedBlock
import ResolverScaffold.Resolver.Signature
import ResolverScaffold.Resolver.SourceCache

/-!
# Recovering resolvers

Before resolver files are written again, what people wrote in them is read
back: the bodies of functions that the tree still asks for, and the whole text
of all others.  An `Enumerator` lists the functions of a file; recovery works
with any of them.
-/

namespace ResolverScaffold

/-- Lists the functions of a file from its path and text. -/
abbrev Enumerator := (path text : String) → Except RecoveryError (List FunctionDecl)

structure Recovered where
  /-- The bodies of functions that the tree asks for. -/
  bodies : Dict String String
  /-- The text of all other functions. -/
  deprecated : Dict String String

namespace Recovered

def empty : Recovered := ⟨.empty, .empty⟩

def isEmpty (r : Recovered) : Bool := r.bodies.isEmpty && r.deprecated.isEmpty

def contains (r : Recovered) (key : String) : Bool :=
  r.bodies.contains key || r.deprecated.contains key

def keepBody (r : Recovered) (key body : String) : Recovered :=
  ⟨r.bodies.insert key body, r.deprecated.erase key⟩

/-- Keep a declaration that the tree does not ask for. -/
def keepDeclaration (r : Recovered) (key declaration : String) : Recovered :=
  ⟨r.bodies.erase key, r.deprecated.insert key declaration⟩

end Recovered

namespace Recovery

/-- What has been read so far: the files, their functions, and their retained blocks by key. -/
structure Progress (disk : Disk) where
  sources : SourceCache disk
  found : Recovered
  retained : Dict String String

/-- Keep what is wanted of one function. -/
def keepFunction {disk : Disk} (tree : Tree) (progress : Progress disk) (decl : FunctionDecl) :
    Except RecoveryError (Progress disk) := do
  let signature := Signature.classify decl.name tree
  if signature.isLive tree then
    let (body, sources) ← progress.sources.slice signature.key decl.body
    return { progress with sources, found := progress.found.keepBody signature.key body }
  else
    let (declaration, sources) ← progress.sources.slice signature.key decl.declaration
    return { progress with
      sources, found := progress.found.keepDeclaration signature.key declaration }

/-- Read one file, if it is there. -/
def readFile (enumerate : Enumerator) {disk : Disk} (tree : Tree) (progress : Progress disk)
    (file : String) : Except RecoveryError (Progress disk) := do
  if disk.exists? file then
    let (text, sources) ← progress.sources.get file
    let retained := (RetainedBlock.scan text).foldl
      (fun blocks block => blocks.insert block.key block.declaration) progress.retained
    let decls ← enumerate file text
    decls.foldlM (keepFunction tree) { progress with sources, retained }
  else return progress

/-- The body of the function that a retained block declares. -/
def revive? (enumerate : Enumerator) (dir key declaration : String) : Option String :=
  match enumerate (Path.join dir (key ++ ".deprecated")) declaration with
  | .error _ => none
  | .ok decls => do
    let decl ← decls.find? (·.name == key)
    Text.sliceOf? declaration decl.body.start.offset decl.body.stop.offset

/-- Keep a retained block, unless its function was found: its body if the tree asks for it
again, its text otherwise. -/
def keepBlock (enumerate : Enumerator) (dir : String) (tree : Tree) (found : Recovered)
    (block : String × String) : Recovered :=
  let (key, declaration) := block
  if found.contains key then found
  else
    let revived :=
      if (Signature.classify key tree).isLive tree then revive? enumerate dir key declaration
      else none
    match revived with
    | some body => { found with bodies := found.bodies.insert key body }
    | none => { found with deprecated := found.deprecated.insert key declaration }

/-- Recover what the files of a directory hold.  Without the directory there is nothing to
recover. -/
def load (enumerate : Enumerator) (disk : Disk) (dir : String) (files : List String)
    (tree : Tree) : Except RecoveryError Recovered := do
  if disk.exists? dir then
    let progress : Progress disk ← files.foldlM (readFile enumerate tree) ⟨.empty, .empty, .empty⟩
    return progress.retained.entries.foldl (keepBlock enumerate dir tree) progress.found
  else return .empty

end Recovery

end ResolverScaffold
