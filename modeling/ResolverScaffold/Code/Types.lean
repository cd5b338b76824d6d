import ResolverScaffold.Code.Item
import ResolverScaffold.Disk
import ResolverScaffold.Package

/-!
# Types of a source

Which types the Rust sources at a location declare.  A location is a source or
a directory, whose sources are read in the order of their names.
-/

namespace ResolverScaffold.Code

/-- A text without a first line that names the program to run it.  An attribute is no such
line. -/
def withoutRunLine (text : List Char) : List Char :=
  match Text.after? "#!".toList text with
  | none => text
  | some rest =>
    if Text.startsWith ['['] (ListReader.repeated gapPiece rest).2 then text
    else text.dropWhile (· != '\n')

/-- The names of the types that a text declares, if it is a Rust source. -/
def typeNames? (text : List Char) : Option (List String) := do
  let text := match text with
    | [] => []
    | c :: rest => if c = orderMark then rest else c :: rest
  let all ← Item.readAll? (withoutRunLine text)
  return all.filterMap fun
    | .declaration name => some name
    | _ => none

/-- Why a file could not be read, for an introspection. -/
def unreadable (path : String) (reason : String) : IntrospectError :=
  .invalid (path ++ ": " ++ reason)

/-- A package with the types of one more source. -/
def scan (disk : Disk) (module path : String) (package : Package) :
    Except IntrospectError Package :=
  match disk.readText path with
  | .error reason => .error (unreadable path reason.message)
  | .ok text =>
    match typeNames? text.toList with
    | none => .error (unreadable path "no Rust source")
    | some names => .ok (names.foldl (fun p name => p.declare name ⟨module, path⟩) package)

/-- Whether a path is that of a source by its extension. -/
def isSource (path : String) : Bool := Path.extension? path == some "rs"

/-- The types of the sources at a location. -/
def introspect (disk : Disk) : Introspector := fun module path =>
  if !disk.exists? path then .error .missing
  else if disk.isFile path then
    if isSource path then scan disk module path (.empty module)
    else .error (.invalid (path ++ " is not a Rust source file"))
  else
    match disk.list path with
    | .error reason => .error (unreadable path reason.message)
    | .ok names =>
      let files := (names.map (Path.join path)).filter fun f => disk.isFile f && isSource f
      files.foldlM (fun package file => scan disk (Path.fileModule module file) file package)
        (.empty module)

end ResolverScaffold.Code
