import ResolverScaffold.Disk
import ResolverScaffold.Markup.Content
import ResolverScaffold.Markup.Document
import ResolverScaffold.Settings

/-!
# Reading settings

Settings are a YAML mapping with a fixed set of keys.  `Settings.parse` reads a
text and looks for flaws; `Settings.load` reads a file and takes its directory
as the root of relative paths.
-/

namespace ResolverScaffold

/-- Why settings could not be used. -/
inductive SettingsError where
  /-- The file could not be read. -/
  | unreadable (path : String) (reason : IoError)
  /-- The text is no settings. -/
  | malformed (path : String)
  | flawed (path : String) (flaw : SettingsFlaw)
  /-- A pattern of schema files is malformed. -/
  | badPattern (pattern : String)
  | noSchemaFiles (patterns : List String)
  deriving DecidableEq, Repr

def SettingsError.message : SettingsError → String
  | .unreadable path reason =>
    "unable to read config " ++ Text.quotePath path ++ ": " ++ reason.message
  | .malformed path => "unable to parse config " ++ Text.quotePath path
  | .flawed path flaw => "invalid config " ++ Text.quotePath path ++ ": " ++ flaw.message
  | .badPattern pattern => "failed to glob schema filename " ++ Text.quote false pattern
  | .noSchemaFiles patterns => "no schema files matched " ++ Text.quoteList patterns

namespace Settings

open Markup (Node Content)

/-- The values of a mapping by key.  Every key is one of those allowed and stands once. -/
def fieldsOf (allowed : List String) : List (Node × Node) → Option (List (String × Node))
  | [] => some []
  | (key, value) :: rest => do
    let name ← key.text?
    let more ← fieldsOf allowed rest
    if allowed.contains name && !more.any (·.1 == name) then some ((name, value) :: more) else none

/-- The values of a node that is a mapping. -/
def fields (allowed : List String) : Node → Option (List (String × Node))
  | .mapping _ entries => fieldsOf allowed entries
  | _ => none

def valueOf (values : List (String × Node)) (key : String) : Option Node :=
  (values.find? (·.1 == key)).map (·.2)

def textOf (values : List (String × Node)) (key : String) : Option String := do
  (← valueOf values key).text?

/-- The items of a list; nothing is an empty list. -/
def itemsOf : Node → Option (List Node)
  | .sequence _ items => some items
  | .scalar _ text plain => if text.isEmpty && plain then some [] else none
  | .mapping _ _ => none

def fileSettings (node : Node) : Option FileSettings := do
  let values ← fields ["filename", "module"] node
  return { filename := ← textOf values "filename", module := ← textOf values "module" }

def resolverSettings (node : Node) : Option ResolverSettings := do
  let values ← fields ["dir", "module", "filename_template"] node
  let template ← match valueOf values "filename_template" with
    | none => some usualTemplate
    | some node => node.text?
  return { dir := ← textOf values "dir", module := ← textOf values "module", template }

/-- The key of a table that names a field: by its name or by its number. -/
def fieldKey? : Content → Option String
  | .text "module" => some "module"
  | .text "path" => some "path"
  | .text _ => some ""
  | .natural 0 => some "module"
  | .natural 1 => some "path"
  | .natural _ => some ""
  | _ => none

/-- The values of the keys `module` and `path`; other keys are passed over. -/
def locatedFields : List (Content × Content) → Option (List (String × String))
  | [] => some []
  | (key, value) :: rest => do
    let key ← fieldKey? key
    let more ← locatedFields rest
    if key.isEmpty then some more
    else if more.any (·.1 == key) then none
    else
      match value with
      | .text s => some ((key, s) :: more)
      | _ => none

/-- A place to look for types. -/
def bindEntry (node : Node) : Option BindEntry := do
  match ← Content.ofNode node with
  | .text module => return .module module
  | .table entries =>
    let values ← locatedFields entries
    let get (key : String) : Option String := (values.find? (·.1 == key)).map (·.2)
    return .located (← get "module") (← get "path")
  | _ => none

def ofNode (node : Node) : Option Settings := do
  let values ← fields ["schema", "exec", "model", "resolver", "autobind"] node
  let schema ← (← itemsOf (← valueOf values "schema")).mapM Node.text?
  let autobind ← match valueOf values "autobind" with
    | none => some []
    | some node => do (← itemsOf node).mapM bindEntry
  return {
    schema
    exec := ← fileSettings (← valueOf values "exec")
    model := ← fileSettings (← valueOf values "model")
    resolver := ← resolverSettings (← valueOf values "resolver")
    autobind
    root := "" }

def parse (origin text : String) : Except SettingsError Settings :=
  match (Node.read? text).bind ofNode with
  | none => .error (.malformed origin)
  | some settings =>
    match settings.flaw? with
    | some flaw => .error (.flawed origin flaw)
    | none => .ok settings

/-- Settings from a file.  Relative paths start at its directory. -/
def load (disk : Disk) (path : String) : Except SettingsError Settings :=
  match disk.readText path with
  | .error reason => .error (.unreadable path reason)
  | .ok text => do
    let settings ← parse path text
    let place := match disk.canonical path with
      | .ok place => place
      | .error _ => path
    return { settings with root := (Path.parent? place).getD "." }

end Settings

end ResolverScaffold
