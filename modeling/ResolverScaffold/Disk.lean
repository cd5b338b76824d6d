import ResolverScaffold.Dict
import ResolverScaffold.Path
import ResolverScaffold.Text.Bytes

/-!
# Disks

A `Disk` is the content of a file system as a value: which locations hold a
directory, a text or bytes that are no text.  Whatever stands at a location
stands in a directory (`Disk.rooted`), so there is no such thing as a file
without a way to it.

Paths are followed component by component: each component but the last has to
be a directory that exists, and `..` goes back from where the walk is.

A change has to be taken by the device of the disk.  It may refuse it, and it may
take a first part of a file and no more (`Disk.save`).
-/

namespace ResolverScaffold

/-- Why a file system refused something. -/
inductive IoError where
  | notFound
  | notADirectory
  | isADirectory
  | alreadyExists
  | permissionDenied
  | noSpace
  /-- The bytes of a file are no text. -/
  | notText
  deriving DecidableEq, Repr

def IoError.message : IoError → String
  | .notFound => "No such file or directory (os error 2)"
  | .notADirectory => "Not a directory (os error 20)"
  | .isADirectory => "Is a directory (os error 21)"
  | .alreadyExists => "File exists (os error 17)"
  | .permissionDenied => "Permission denied (os error 13)"
  | .noSpace => "No space left on device (os error 28)"
  | .notText => "stream did not contain valid UTF-8"

/-- The names on the way from the root. -/
abbrev Location := List String

instance (priority := high) : Trans (α := Location) (· < ·) (· < ·) (· < ·) := ⟨List.lt_trans⟩

instance (priority := high) : Std.Trichotomous (α := Location) (· < ·) :=
  ⟨fun _ _ hNot hNot' => List.le_antisymm (List.not_lt.1 hNot') (List.not_lt.1 hNot)⟩

/-- What can stand at a location. -/
inductive DiskNode where
  | directory
  | text (content : String)
  /-- A file whose bytes are no text. -/
  | bytes
  deriving DecidableEq, Repr

/-- A file that has taken so many bytes of a text. -/
def DiskNode.firstBytes (content : String) (bytes : Nat) : DiskNode :=
  match Text.takeBytes? (min bytes (Text.byteLength content.toList)) content.toList with
  | some front => .text (String.ofList front)
  | none => .bytes

/-- What stands at a location; the root is a directory. -/
def DiskNode.at? (nodes : Dict Location DiskNode) : Location → Option DiskNode
  | [] => some .directory
  | location => nodes.get? location

/-- How a device takes a change. -/
inductive Storing where
  | whole
  /-- Nothing changes. -/
  | refused (reason : IoError)
  /-- The file takes so many bytes and no more. -/
  | cut (bytes : Nat) (reason : IoError)
  deriving DecidableEq, Repr

/-- The content of a file system. -/
structure Disk where
  /-- What stands at each location below the root. -/
  nodes : Dict Location DiskNode
  /-- Where relative paths start. -/
  workDir : Location
  /-- How a change from some content to another is taken. -/
  device : (before after : Dict Location DiskNode) → Storing
  /-- What stands at a location stands in a directory. -/
  rooted : ∀ location name, nodes.contains (location ++ [name]) = true →
    DiskNode.at? nodes location = some .directory

namespace Disk

/-- A file system with nothing in it and room for everything. -/
def empty : Disk :=
  ⟨.empty, [], fun _ _ => .whole, fun location name h => by simp [Dict.contains, Dict.get?_empty] at h⟩

instance : Inhabited Disk := ⟨empty⟩

def node? (disk : Disk) (location : Location) : Option DiskNode := DiskNode.at? disk.nodes location

def names (disk : Disk) (location : Location) : List String :=
  disk.nodes.keys.filterMap fun key =>
    if key.take location.length = location then
      match key.drop location.length with
      | [name] => some name
      | _ => none
    else none

/-! ### Changes at a location -/

theorem at?_insert_of_ne {nodes : Dict Location DiskNode} {key location : Location} {node : DiskNode}
    (h : location ≠ key) :
    DiskNode.at? (nodes.insert key node) location = DiskNode.at? nodes location := by
  cases location with
  | nil => rfl
  | cons name rest => simp [DiskNode.at?, h]

/-- Put something under a name of a directory.  A directory is not replaced by a file. -/
def put (disk : Disk) (location : Location) (name : String) (node : DiskNode)
    (hParent : disk.node? location = some .directory)
    (hKeep : node = .directory ∨ disk.node? (location ++ [name]) ≠ some .directory) : Disk where
  nodes := disk.nodes.insert (location ++ [name]) node
  workDir := disk.workDir
  device := disk.device
  rooted := by
    intro other child h
    by_cases hSame : other = location ++ [name]
    · subst hSame
      have hChild : (location ++ [name]) ++ [child] ≠ location ++ [name] := by
        intro same
        have hLength := congrArg List.length same
        simp at hLength
      have hOld : disk.nodes.contains ((location ++ [name]) ++ [child]) = true := by
        rw [Dict.contains, Dict.get?_insert, if_neg hChild] at h
        exact h
      have hDir := disk.rooted _ _ hOld
      rcases hKeep with hNode | hNot
      · subst hNode
        cases hLocation : location ++ [name] with
        | nil => simp at hLocation
        | cons first rest => simp [DiskNode.at?]
      · exact absurd hDir hNot
    · rw [at?_insert_of_ne hSame]
      by_cases hNew : other ++ [child] = location ++ [name]
      · have hOther : other = location := (List.append_inj' hNew rfl).1
        subst hOther
        exact hParent
      · apply disk.rooted other child
        rw [Dict.contains, Dict.get?_insert, if_neg hNew] at h
        exact h

/-- Take away a location and all that is below it. -/
def removeAt (disk : Disk) (location : Location) : Disk where
  nodes := disk.nodes.filter fun key _ => !location.isPrefixOf key
  workDir := disk.workDir
  device := disk.device
  rooted := by
    intro other child h
    obtain ⟨hOld, _, hKept⟩ := Dict.contains_of_contains_filter _ _ h
    have hDir := disk.rooted other child hOld
    cases other with
    | nil => rfl
    | cons first rest =>
      have hGet : disk.nodes.get? (first :: rest) = some .directory := hDir
      have hFilter := Dict.get?_filter_of_get?_eq_some disk.nodes
        (fun key _ => !location.isPrefixOf key) hGet
      have hOut : location.isPrefixOf (first :: rest) = false := by
        cases hCase : location.isPrefixOf (first :: rest) with
        | false => rfl
        | true =>
          rw [List.isPrefixOf_iff_prefix] at hCase
          have hLonger : location <+: (first :: rest) ++ [child] :=
            hCase.trans (List.prefix_append _ _)
          rw [← List.isPrefixOf_iff_prefix] at hLonger
          rw [hLonger] at hKept
          cases hKept
      show (disk.nodes.filter fun key _ => !location.isPrefixOf key).get? (first :: rest)
        = some .directory
      rw [hFilter]
      simp [hOut]

/-! ### Paths -/

def start (disk : Disk) (path : String) : Location × List String :=
  (if Path.isAbsolute path then [] else disk.workDir,
    (Path.pieces path.toList).map String.ofList)

/-- Follow the pieces of a path.  Every place a piece is looked up in has to be a directory. -/
def follow (disk : Disk) (location : Location) : List String → Except IoError Location
  | [] => .ok location
  | piece :: rest =>
    match disk.node? location with
    | none => .error .notFound
    | some .directory =>
      if piece = "" ∨ piece = "." then disk.follow location rest
      else if piece = ".." then disk.follow location.dropLast rest
      else disk.follow (location ++ [piece]) rest
    | some _ => .error .notADirectory

/-- The location of a path, whether or not something stands there. -/
def locate (disk : Disk) (path : String) : Except IoError Location :=
  if path.isEmpty then .error .notFound
  else
    let (location, pieces) := disk.start path
    disk.follow location pieces

def look (disk : Disk) (path : String) : Except IoError DiskNode := do
  match disk.node? (← disk.locate path) with
  | some node => .ok node
  | none => .error .notFound

def exists? (disk : Disk) (path : String) : Bool :=
  match disk.look path with
  | .ok _ => true
  | .error _ => false

def isDirectory (disk : Disk) (path : String) : Bool :=
  match disk.look path with
  | .ok .directory => true
  | _ => false

def isFile (disk : Disk) (path : String) : Bool :=
  match disk.look path with
  | .ok (.text _) | .ok .bytes => true
  | _ => false

def readText (disk : Disk) (path : String) : Except IoError String := do
  match ← disk.look path with
  | .text content => .ok content
  | .bytes => .error .notText
  | .directory => .error .isADirectory

def list (disk : Disk) (path : String) : Except IoError (List String) := do
  let location ← disk.locate path
  match disk.node? location with
  | some .directory => .ok (disk.names location)
  | some _ => .error .notADirectory
  | none => .error .notFound

/-- The pieces of a path up to its last one that is not empty, that one, and whether separators
follow it. -/
def lastPiece? (pieces : List String) : Option (List String × String × Bool) :=
  match pieces.reverse.dropWhile (· == "") with
  | [] => none
  | last :: before => some (before.reverse, last, pieces.getLast? == some "")

/-- Where a new entry of a path would stand: its directory and its name.  None if the path does
not end in a name. -/
def target (disk : Disk) (path : String) : Except IoError (Option (Location × String × Bool)) :=
  if path.isEmpty then .error .notFound
  else do
    let (location, pieces) := disk.start path
    match lastPiece? pieces with
    | none => .ok none
    | some (before, last, slash) =>
      -- the closing "." looks the last piece up, which needs a directory
      let parent ← disk.follow location (before ++ ["."])
      if last = "." ∨ last = ".." then .ok none else .ok (some (parent, last, slash))

/-- The disk with a file.  Its directory has to be there. -/
def writeNode (disk : Disk) (path : String) (node : DiskNode) : Except IoError Disk := do
  match ← disk.target path with
  | none => .error .isADirectory
  | some (location, name, slash) =>
    if slash then .error .isADirectory
    else if hParent : disk.node? location = some .directory then
      if hKeep : disk.node? (location ++ [name]) = some .directory then .error .isADirectory
      else .ok (disk.put location name node hParent (.inr hKeep))
    else .error .notFound

def writeText (disk : Disk) (path content : String) : Except IoError Disk :=
  disk.writeNode path (.text content)

/-- Write a text file: the disk afterwards, and what went wrong.  The file is emptied before it
takes the text, so that it holds a part where the device did not take all of it. -/
def save (disk : Disk) (path content : String) : Disk × Option IoError :=
  match disk.writeText path content with
  | .error reason => (disk, some reason)
  | .ok written =>
    match disk.device disk.nodes written.nodes with
    | .whole => (written, none)
    | .refused reason => (disk, some reason)
    | .cut bytes reason =>
      match disk.writeNode path (.firstBytes content bytes) with
      | .ok part => (part, some reason)
      | .error other => (disk, some other)

/-- Make a directory in a directory that is there. -/
def makeDirectory (disk : Disk) (path : String) : Except IoError Disk := do
  match ← disk.target path with
  | none => .error .alreadyExists
  | some (location, name, _) =>
    if (disk.node? (location ++ [name])).isSome then .error .alreadyExists
    else if hParent : disk.node? location = some .directory then
      let made := disk.put location name .directory hParent (.inl rfl)
      match disk.device disk.nodes made.nodes with
      | .whole => .ok made
      | .refused reason | .cut _ reason => .error reason
    else .error .notFound

def ensureDirectory (disk : Disk) (path : String) : Disk × Option IoError :=
  match disk.makeDirectory path with
  | .ok made => (made, none)
  | .error e => (disk, if disk.isDirectory path then none else some e)

/-- Make a directory and all directories on the way to it, given at most so many parents.
Directories on the way stay where the last one cannot be made. -/
def makeDirectoriesWithin : (depth : Nat) → Disk → String → Disk × Option IoError
  | 0, disk, _ => (disk, none)
  | depth + 1, disk, path =>
    if path.isEmpty then (disk, none)
    else
      match disk.makeDirectory path with
      | .ok made => (made, none)
      | .error .notFound =>
        match Path.parent? path with
        | none => (disk, some .notFound)
        | some parent =>
          match makeDirectoriesWithin depth disk parent with
          | (made, none) => made.ensureDirectory path
          | (made, some e) => (made, some e)
      | .error e => (disk, if disk.isDirectory path then none else some e)

/-- Make a directory and all directories on the way to it: the disk afterwards, and what went
wrong. -/
def makeDirectories (disk : Disk) (path : String) : Disk × Option IoError :=
  makeDirectoriesWithin (path.length + 1) disk path

/-- Take away the file or directory at a path. -/
def remove (disk : Disk) (path : String) : Except IoError Disk := do
  let location ← disk.locate path
  match disk.node? location with
  | some _ => .ok (disk.removeAt location)
  | none => .error .notFound

/-- The path from the root that leads to where a path leads. -/
def canonical (disk : Disk) (path : String) : Except IoError String := do
  let location ← disk.locate path
  match disk.node? location with
  | some _ => .ok ("/" ++ "/".intercalate location)
  | none => .error .notFound

end Disk

end ResolverScaffold
