import ResolverScaffold.Disk
import ResolverScaffold.Resolver.Span
import ResolverScaffold.Text.Quoted

/-!
# Sources that were read

A recovery reads each file once.  A `SourceCache` has the texts that were read so far,
each with the path that it was first asked for by, and an entry serves every other
spelling of its path too.
-/

namespace ResolverScaffold

/-- Why resolver files could not be recovered. -/
inductive RecoveryError where
  | unreadable (path : String) (reason : IoError)
  /-- A file is no Rust source. -/
  | malformed (path : String)
  /-- A part of a file starts in one file and ends in another. -/
  | crossesFiles (signature start stop : String)
  /-- A part of a file is not there. -/
  | invalidSpan (signature path : String) (start stop : Nat)
  deriving DecidableEq, Repr

def RecoveryError.message : RecoveryError → String
  | .unreadable path reason =>
    "unable to read resolver source " ++ Text.quotePath path ++ ": " ++ reason.message
  | .malformed path => "unable to parse resolver source " ++ Text.quotePath path
  | .crossesFiles signature start stop =>
    "cannot extract source for " ++ signature ++ ": span starts in " ++ Text.quotePath start
      ++ " and ends in " ++ Text.quotePath stop
  | .invalidSpan signature path start stop =>
    "cannot extract source for " ++ signature ++ ": byte range " ++ toString start ++ ".."
      ++ toString stop ++ " is invalid for " ++ Text.quotePath path

/-- The files of a disk that were read, each with its text. -/
structure SourceCache (disk : Disk) where
  files : List (String × String)
  read : ∀ file ∈ files, disk.readText file.1 = .ok file.2

namespace SourceCache

variable {disk : Disk}

def empty : SourceCache disk := ⟨[], nofun⟩

/-- The text of a file that was read, by this spelling of its path or by another. -/
def find? (cache : SourceCache disk) (path : String) : Option String :=
  (cache.files.find? fun file => Path.same file.1 path).map (·.2)

def add (cache : SourceCache disk) (path text : String) (h : disk.readText path = .ok text) :
    SourceCache disk :=
  ⟨(path, text) :: cache.files, List.forall_mem_cons.2 ⟨h, cache.read⟩⟩

/-- The text of a file, and the cache with it.  Only what is not there is read. -/
def get (cache : SourceCache disk) (path : String) :
    Except RecoveryError (String × SourceCache disk) :=
  match cache.find? path with
  | some text => .ok (text, cache)
  | none =>
    match h : disk.readText path with
    | .error reason => .error (.unreadable path reason)
    | .ok text => .ok (text, cache.add path text h)

def slice (cache : SourceCache disk) (signature : String) (span : Span) :
    Except RecoveryError (String × SourceCache disk) := do
  if !Path.same span.start.file span.stop.file then
    .error (.crossesFiles signature span.start.file span.stop.file)
  else
    let (text, cache) ← cache.get span.start.file
    match Text.sliceOf? text span.start.offset span.stop.offset with
    | some part => .ok (part, cache)
    | none => .error (.invalidSpan signature span.start.file span.start.offset span.stop.offset)

end SourceCache

end ResolverScaffold
