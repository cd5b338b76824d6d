/-!
# Paths

A path is a string with `/` between its components.  Empty components and `.`
after the first place do not count.  `join` puts two paths together, `parent?`
drops the last component, and `fileName?`, `stem?` and `extension?` read it.
-/

namespace ResolverScaffold.Path

/-- A path, last character first, without the separators and `.` components at its end. -/
def trimTail : List Char → List Char
  | ['/'] => ['/']
  | '/' :: rest => trimTail rest
  | '.' :: '/' :: rest => trimTail ('/' :: rest)
  | cs => cs

/-- The last component of a path and the path before it. -/
def last? (path : String) : Option (String × String) :=
  match trimTail path.toList.reverse with
  | [] => none
  | ['/'] => none
  | tail =>
    some (String.ofList (tail.takeWhile (· ≠ '/')).reverse,
      String.ofList (trimTail (tail.dropWhile (· ≠ '/'))).reverse)

def parent? (path : String) : Option String := (last? path).map (·.2)

/-- The last component, if it is a name. -/
def fileName? (path : String) : Option String :=
  match last? path with
  | none => none
  | some (name, _) => if name = "." ∨ name = ".." then none else some name

/-- What stands before and after the last dot of a file name; a dot at its start does not
count. -/
def splitName (name : String) : String × Option String :=
  let tail := name.toList.reverse
  match tail.dropWhile (· ≠ '.') with
  | _ :: c :: stem =>
    (String.ofList (c :: stem).reverse, some (String.ofList (tail.takeWhile (· ≠ '.')).reverse))
  | _ => (name, none)

/-- The file name without its extension. -/
def stem? (path : String) : Option String := (fileName? path).map fun name => (splitName name).1

def extension? (path : String) : Option String :=
  (fileName? path).bind fun name => (splitName name).2

def isAbsolute (path : String) : Bool := path.toList.head? == some '/'

/-- The path `right` seen from `left`. -/
def join (left right : String) : String :=
  if isAbsolute right || left.isEmpty then right
  else if left.toList.getLast? == some '/' then left ++ right
  else left ++ "/" ++ right

/-- The pieces of a text between its slashes. -/
def pieces : List Char → List (List Char)
  | [] => [[]]
  | '/' :: rest => [] :: pieces rest
  | c :: rest =>
    match pieces rest with
    | [] => [[c]]
    | piece :: more => (c :: piece) :: more

/-- The components of a path, the root as `/`.  Two paths with the same components are the
same path. -/
def components (path : String) : List String :=
  let all := (pieces path.toList).map String.ofList
  let named := all.filter fun piece => !piece.isEmpty && piece != "."
  if isAbsolute path then "/" :: named
  else if all.head? == some "." then "." :: named
  else named

/-- Whether two spellings are the same path. -/
def same (a b : String) : Bool := components a == components b

/-- The module of a file in the module `parent`. -/
def fileModule (parent file : String) : String :=
  match stem? file with
  | none => parent
  | some stem => if stem = "mod" ∨ stem = "lib" ∨ stem = "main" then parent else parent ++ "::" ++ stem

end ResolverScaffold.Path
