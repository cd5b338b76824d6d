import ResolverScaffold.Path
import ResolverScaffold.Resolver.Kind
import ResolverScaffold.Text.Lines
import ResolverScaffold.Text.Quoted

/-!
# Settings

What a project says about its code: where the schema is, which files and
modules hold the dispatch code, the models and the resolvers, and where types
written by hand may be found.  All relative paths start at `root`.
-/

namespace ResolverScaffold

/-- A generated file and the module it is in. -/
structure FileSettings where
  filename : String
  module : String
  deriving DecidableEq, Repr

/-- The directory of the resolvers and its module. -/
structure ResolverSettings where
  dir : String
  module : String
  /-- The name of a resolver file, with a hole for its kind. -/
  template : String
  deriving DecidableEq, Repr

/-- A place to look for types written by hand. -/
inductive BindEntry where
  /-- A module of this project, whose place follows from its name. -/
  | module (module : String)
  | located (module path : String)
  deriving DecidableEq, Repr

/-- A module and where its source is. -/
structure BindSource where
  module : String
  path : String
  deriving DecidableEq, Repr

/-- What a project says about its code. -/
structure Settings where
  /-- The patterns of the schema files. -/
  schema : List String
  exec : FileSettings
  model : FileSettings
  resolver : ResolverSettings
  autobind : List BindEntry
  /-- The directory that relative paths start at. -/
  root : String
  deriving DecidableEq, Repr

inductive SettingsFlaw where
  | noModule
  | noFileName
  | noDirectory
  /-- The template of the resolver files has another hole. -/
  | otherTemplate
  /-- The template of the resolver files has no hole. -/
  | noTemplate
  /-- A module of another project has no path. -/
  | outsideModule (module : String)
  deriving DecidableEq, Repr

def SettingsFlaw.message : SettingsFlaw → String
  | .noModule => "module must be set for exec, model and resolver"
  | .noFileName => "file names for generated executer and model must be set"
  | .noDirectory => "resolver target directory must be set"
  | .otherTemplate =>
    "currently only \x7bresolver\x7d_resolver.rs is supported as resolver filename template"
  | .noTemplate => "could not find resolver name in filename template"
  | .outsideModule module =>
    "autobind module " ++ module ++ " is outside this crate and needs an explicit path"

namespace Settings

/-- The hole for the kind in the template of the resolver files. -/
def hole : String := "\x7bresolver\x7d"

/-- The template of the resolver files unless settings say otherwise. -/
def usualTemplate : String := hole ++ "_resolver.rs"

def templateHole? (template : String) : Option String :=
  match template.toList with
  | '\x7b' :: rest =>
    match rest.takeWhile (· ≠ '\x7d'), rest.dropWhile (· ≠ '\x7d') with
    | c :: name, _ :: tail =>
      if tail = "_resolver.rs".toList then some (String.ofList (c :: name)) else none
    | _, _ => none
  | _ => none

/-- Whether a module needs a path of its own. -/
def isOutside : BindEntry → Bool
  | .module module => module != "crate" && (Text.afterOf? "crate::" module).isNone
  | .located _ _ => false

def flaw? (s : Settings) : Option SettingsFlaw :=
  if [s.exec.module, s.model.module, s.resolver.module].any Text.isBlankString then some .noModule
  else if [s.exec.filename, s.model.filename].any Text.isBlankString then some .noFileName
  else if Text.isBlankString s.resolver.dir then some .noDirectory
  else
    match templateHole? s.resolver.template with
    | none => some .noTemplate
    | some name =>
      if name ≠ "resolver" then some .otherTemplate
      else
        match s.autobind.find? isOutside with
        | some (.module module) => some (.outsideModule module)
        | _ => none

/-- The directory of a module of this project. -/
def moduleDir (module : String) : String :=
  ((Text.splitAt "::".toList module.toList).drop 1).foldl
    (fun dir segment => Path.join dir (String.ofList segment)) "src"

/-- Where an entry looks for types. -/
def bindSource (s : Settings) : BindEntry → BindSource
  | .module module => ⟨module, Path.join s.root (moduleDir module)⟩
  | .located module path => ⟨module, Path.join s.root path⟩

/-- The places to look for types, in order. -/
def bindSources (s : Settings) : List BindSource := s.autobind.map s.bindSource

def modelFile (s : Settings) : String := Path.join s.root s.model.filename

def modelDir (s : Settings) : String := (Path.parent? s.modelFile).getD s.root

def modelFileName (s : Settings) : String := (Path.fileName? s.model.filename).getD ""

def modelFileModule (s : Settings) : String := Path.fileModule s.model.module s.model.filename

def execFile (s : Settings) : String := Path.join s.root s.exec.filename

def execFileModule (s : Settings) : String := Path.fileModule s.exec.module s.exec.filename

def resolverDir (s : Settings) : String := Path.join s.root s.resolver.dir

def resolverFileName (s : Settings) (kind : ResolverKind) : String :=
  Text.replaceAllOf hole kind.word s.resolver.template

def resolverFile (s : Settings) (kind : ResolverKind) : String :=
  Path.join s.resolverDir (s.resolverFileName kind)

def resolverFiles (s : Settings) : List String := ResolverKind.all.map s.resolverFile

/-- The module of the file for a kind of resolvers, inside the module of the directory. -/
def resolverModule (s : Settings) (kind : ResolverKind) : String :=
  (Path.stem? (s.resolverFileName kind)).getD ""

end Settings

end ResolverScaffold
