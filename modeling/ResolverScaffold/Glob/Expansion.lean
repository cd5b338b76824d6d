import ResolverScaffold.Disk
import ResolverScaffold.Glob.Pattern

/-!
# What a pattern finds

The paths on a disk that a pattern stands for.  In each directory they come in
the order of names; what is in a directory follows the directory itself.
-/

namespace ResolverScaffold.Glob

/-- A name in a directory.  The working directory is not written before it. -/
def within (dir name : String) : String := if dir == "." then name else Path.join dir name

/-- What is in a directory, in the order of names. -/
def entries (disk : Disk) (dir : String) : List (String × String) :=
  match disk.list dir with
  | .ok names => names.map fun name => (name, within dir name)
  | .error _ => []

def allBelow (disk : Disk) : (depth : Nat) → (dir : String) → List (String × String)
  | 0, _ => []
  | depth + 1, dir =>
    (entries disk dir).flatMap fun entry =>
      entry :: if disk.isDirectory entry.2 then allBelow disk depth entry.2 else []

/-- A path that a pattern has led to, unless only directories are wanted and it is none. -/
def found (disk : Disk) (directories : Bool) (path : String) : List String :=
  if directories && !disk.isDirectory path then [] else [path]

/-- The names of a directory itself and of the one above that a component stands for: only one
that starts with a dot does. -/
def dotNames : Component → List String
  | component@(.wild (.char '.' :: _)) => ["..", "."].filter fun name => component.allows name
  | _ => []

def expandFrom (disk : Disk) (directories : Bool) : List Component → (path : String) → List String
  | [], _ => []
  | .name text :: rest, path =>
    let next := within path text
    let isThere :=
      if text == "." || text == ".." then disk.isDirectory path else disk.exists? next
    if !isThere then []
    else if rest.isEmpty then found disk directories next
    else expandFrom disk directories rest next
  | .deep :: rest, path =>
    (allBelow disk (disk.nodes.size + 1) path).flatMap fun (name, entry) =>
      match rest with
      | [] => if disk.isDirectory entry then [entry] else []
      | .deep :: _ => []
      | component :: more =>
        if !component.allows name then []
        else if more.isEmpty then found disk directories entry
        else expandFrom disk directories more entry
  | component@(.wild _) :: rest, path =>
    let reached (next : String) : List String :=
      if rest.isEmpty then found disk directories next else expandFrom disk directories rest next
    if disk.isDirectory path then
      (dotNames component).flatMap (fun name => reached (Path.join path name))
        ++ (entries disk path).flatMap fun (name, next) =>
          if component.allows name then reached next else []
    else []

/-- Components in which no `**` follows another. -/
def collapse : List Component → List Component
  | .deep :: .deep :: rest => collapse (.deep :: rest)
  | component :: rest => component :: collapse rest
  | [] => []

/-- The paths on a disk that a pattern stands for. -/
def Pattern.expand (disk : Disk) (p : Pattern) : List String :=
  expandFrom disk p.directories (collapse p.components) (if p.rooted then "/" else ".")

end ResolverScaffold.Glob
