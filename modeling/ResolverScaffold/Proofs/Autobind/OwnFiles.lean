import Mathlib
import ResolverScaffold.Code.Types
import ResolverScaffold.Proofs.Autobind.Rounds
import ResolverScaffold.Proofs.Path
import ResolverScaffold.Proofs.Resolver.Recovery
import ResolverScaffold.Render.Files

/-!
# Generated files beside the models

A type that somebody declares beside the model file is not generated.  The model
file itself is left out by its name, but it need not be the only generated file in
its directory: the dispatch file may be there too, and what it declares is then
taken for something written by hand.

* `Promoted`: a binding was decided by a declaration beside the model file.
* `located_introspect`: what a disk declares stands where one looks for it.
* `canPromote_located_iff`: which files can decide a binding in this way.
-/

namespace ResolverScaffold

/-- The files that are replaced whenever code is generated. -/
def Settings.ownFiles (s : Settings) : List String := s.modelFile :: s.resolverFiles ++ [s.execFile]

theorem Settings.execFile_mem_ownFiles (s : Settings) : s.execFile ∈ s.ownFiles := by
  simp [ownFiles]

theorem ModelHome.dir_ofSettings (settings : Settings) :
    (ModelHome.ofSettings settings).dir = settings.modelDir := by
  rw [ofSettings]

/-- The files of a tree are those that are replaced, and the list of resolver modules. -/
theorem GeneratedFile.renderAll_eq_ok {settings : Settings} {tree : Tree} {recovered : Recovered}
    {files : List GeneratedFile} (h : renderAll settings tree recovered = .ok files) :
    ∃ own, files = own ++ [moduleList settings] ∧ own.map (·.path) = settings.ownFiles
      ∧ ∀ file ∈ own, file.overwrite = true := by
  obtain ⟨models, -, h⟩ := bind_eq_ok_iff.1 h
  obtain ⟨stubs, -, h⟩ := bind_eq_ok_iff.1 h
  obtain ⟨dispatch, -, h⟩ := bind_eq_ok_iff.1 h
  rw [pure_eq_ok_iff] at h
  subst h
  refine ⟨{ path := settings.modelFile, contents := models.render, overwrite := true }
    :: ResolverKind.all.map (ofResolvers settings tree stubs recovered)
    ++ [{ path := settings.execFile, contents := dispatch.render, overwrite := true }], ?_, ?_, ?_⟩
  · rw [List.append_assoc, List.singleton_append]
  · have hResolvers : (ResolverKind.all.map (ofResolvers settings tree stubs recovered)).map (·.path)
        = settings.resolverFiles := by
      rw [List.map_map, Settings.resolverFiles]
      refine List.map_congr_left fun kind _ => ?_
      rw [Function.comp_apply, ofResolvers]
    rw [List.map_append, List.map_cons, hResolvers]
    rfl
  · intro file hFile
    rcases List.mem_append.1 hFile with hFile | hFile
    · rcases List.mem_cons.1 hFile with rfl | hFile
      · rfl
      · obtain ⟨kind, -, rfl⟩ := List.mem_map.1 hFile
        rfl
    · rw [List.mem_singleton.1 hFile]

theorem GeneratedFile.overwritten_eq {settings : Settings} {tree : Tree} {recovered : Recovered}
    {files : List GeneratedFile} (h : renderAll settings tree recovered = .ok files) :
    (files.filter (·.overwrite)).map (·.path) = settings.ownFiles := by
  obtain ⟨own, rfl, hPaths, hReplaced⟩ := renderAll_eq_ok h
  have hKept : [moduleList settings].filter (·.overwrite) = [] := rfl
  rw [List.filter_append, List.filter_eq_self.2 hReplaced, hKept, List.append_nil, hPaths]

/-! ### Declarations and where they stand -/

/-- A path is that of a directory, or that of something in it. -/
def Path.Within (dir path : String) : Prop :=
  components path = components dir ∨ ∃ name, components path = components dir ++ [name]

/-- What a package declares stands at a path. -/
def Package.LiesIn (path : String) (p : Package) : Prop :=
  ∀ name, ∀ d ∈ p.declarationsOf name, Path.Within path d.file

/-- A package lies at the path it is loaded from. -/
def Introspector.Located (introspect : Introspector) : Prop :=
  ∀ module path package, introspect module path = .ok package → package.LiesIn path

theorem Package.mem_declarationsOf_declare {p : Package} {name other : String}
    {d e : Declaration} (h : d ∈ (p.declare name e).declarationsOf other) :
    d ∈ p.declarationsOf other ∨ d = e := by
  rw [declarationsOf, declare, Dict.get?_insert] at h
  split at h
  · rename_i hName
    subst hName
    simpa using h
  · exact .inl h

theorem Package.mem_declarationsOf_foldl {names : List String} {name : String}
    {d e : Declaration} : ∀ {p : Package},
    d ∈ (names.foldl (fun p first => p.declare first e) p).declarationsOf name →
      d ∈ p.declarationsOf name ∨ d = e := by
  induction names with
  | nil => exact fun h => .inl h
  | cons first names ih =>
    intro p h
    rcases ih h with h | h
    · exact mem_declarationsOf_declare h
    · exact .inr h

theorem Package.liesIn_empty (path module : String) : (Package.empty module).LiesIn path := by
  intro name d hd
  cases hd

theorem Package.LiesIn.scan {dir : String} {disk : Disk} {module path : String}
    {package package' : Package} (h : package.LiesIn dir) (hPath : Path.Within dir path)
    (hScan : Code.scan disk module path package = .ok package') : package'.LiesIn dir := by
  rw [Code.scan] at hScan
  split at hScan
  · cases hScan
  · split at hScan
    · cases hScan
    · cases hScan
      intro name d hd
      rcases mem_declarationsOf_foldl hd with hd | rfl
      · exact h name d hd
      · exact hPath

/-- Every name on a disk can be the name of a file. -/
def Disk.Plain (disk : Disk) : Prop :=
  ∀ location name, disk.nodes.contains (location ++ [name]) = true → Path.IsPlain name

theorem Disk.mem_names_iff {disk : Disk} {location : Location} {name : String} :
    name ∈ disk.names location ↔ disk.nodes.contains (location ++ [name]) = true := by
  rw [← Dict.mem_keys_iff, names, List.mem_filterMap]
  constructor
  · rintro ⟨key, hKey, hSome⟩
    split at hSome
    · rename_i hTake
      split at hSome
      · rename_i hDrop
        cases hSome
        rwa [← hTake, ← hDrop, List.take_append_drop]
      · cases hSome
    · cases hSome
  · intro hKey
    exact ⟨_, hKey, by simp⟩

theorem Disk.Plain.of_mem_list {disk : Disk} (h : disk.Plain) {path : String}
    {names : List String} (hList : disk.list path = .ok names) {name : String}
    (hName : name ∈ names) : Path.IsPlain name := by
  obtain ⟨location, -, hList⟩ := bind_eq_ok_iff.1 hList
  split at hList <;> cases hList
  exact h location name (mem_names_iff.1 hName)

/-- **What a disk declares stands where one looks for it.** -/
theorem Code.located_introspect {disk : Disk} (h : disk.Plain) :
    Introspector.Located (introspect disk) := by
  intro module path package hOk
  have hNone := Package.liesIn_empty path module
  rw [introspect] at hOk
  split at hOk
  · cases hOk
  · split at hOk
    · -- one source
      split at hOk
      · exact hNone.scan (.inl rfl) hOk
      · cases hOk
    · -- the sources of a directory
      split at hOk
      · cases hOk
      · rename_i names hNames
        refine foldlM_invariant ?_ hNone hOk
        intro p file p' hFile hInv hScan
        obtain ⟨name, hName, rfl⟩ := List.mem_map.1 (List.mem_filter.1 hFile).1
        have hPlain := h.of_mem_list hNames hName
        exact hInv.scan (.inr ⟨name, Path.components_join hPlain⟩) hScan

namespace Autobind

/-! ### Bound to a declaration beside the models -/

/-- The binding of a key was pending, no listed package declares its type, and it was decided by a
declaration beside the model file. -/
def Promoted (introspect : Introspector) (home : ModelHome) (sources : List BindSource)
    (tree bound : Tree) (key : String) (d : Declaration) : Prop :=
  ∃ b listed own, tree.bindings.get? key = some b ∧ b.isResolved = false
    ∧ bound.bindings.get? key = some { b with placement := .external d.module }
    ∧ loadSources introspect home sources = .ok listed
    ∧ listed.findSome? (·.declares? b.name) = none
    ∧ loadHome introspect home = .ok own
    ∧ (own.declarationsOf b.name).find? (·.fileName ≠ home.generatedFile) = some d

section Promoted

variable {introspect : Introspector} {home : ModelHome} {sources : List BindSource}
  {tree bound : Tree} {key : String} {d : Declaration}

theorem Promoted.fileName_ne (h : Promoted introspect home sources tree bound key d) :
    d.fileName ≠ home.generatedFile := by
  obtain ⟨b, listed, own, -, -, -, -, -, -, hFind⟩ := h
  simpa using List.find?_some hFind

theorem Promoted.within (hLocated : introspect.Located)
    (h : Promoted introspect home sources tree bound key d) : Path.Within home.dir d.file := by
  obtain ⟨b, listed, own, -, -, -, -, -, hOwn, hFind⟩ := h
  have hMem := List.mem_of_find?_eq_some hFind
  rw [loadHome] at hOwn
  split at hOwn
  · rename_i package hPackage
    cases hOwn
    exact hLocated home.module home.dir own hPackage b.name d hMem
  · cases hOwn
    cases hMem
  · cases hOwn

end Promoted

/-- A file can decide a binding as if it were written by hand, with some introspector of a class. -/
def CanPromote (settings : Settings) (Admits : Introspector → Prop) (file : String) : Prop :=
  ∃ introspect, Admits introspect ∧ ∃ sources tree bound key d,
    bindAll introspect (.ofSettings settings) sources tree = .ok bound
    ∧ Promoted introspect (.ofSettings settings) sources tree bound key d
    ∧ Path.components d.file = Path.components file

/-! ### One declaration beside the models -/

/-- A place with one file, which declares one type. -/
def soleAt (dir file : String) : Introspector := fun module path =>
  if path = dir then .ok ((Package.empty module).declare "Event" ⟨module, file⟩)
  else .error .missing

/-- A tree of one pending type. -/
def soleTree : Tree :=
  { Tree.empty with bindings := Dict.empty.insert "Event" (.pending "Event") }

theorem declarationsOf_sole (module file name : String) :
    ((Package.empty module).declare "Event" ⟨module, file⟩).declarationsOf name
      = if name = "Event" then [⟨module, file⟩] else [] := by
  rw [Package.declarationsOf, Package.declare, Dict.get?_insert]
  split <;> rfl

theorem located_soleAt {dir file : String} (h : Path.Within dir file) :
    Introspector.Located (soleAt dir file) := by
  intro module path package hOk name d hd
  rw [soleAt] at hOk
  split at hOk
  · rename_i hPath
    cases hOk
    rw [declarationsOf_sole] at hd
    split at hd
    · rw [List.mem_singleton.1 hd, hPath]
      exact h
    · cases hd
  · cases hOk

/-- The one pending type is decided by what stands beside the model file. -/
theorem promoted_soleTree {introspect : Introspector} {home : ModelHome} {own : Package}
    {d : Declaration} (hOwn : loadHome introspect home = .ok own)
    (hFind : (own.declarationsOf "Event").find? (·.fileName ≠ home.generatedFile) = some d) :
    ∃ bound, bindAll introspect home [] soleTree = .ok bound
      ∧ Promoted introspect home [] soleTree bound "Event" d := by
  have hPlacement : placement home [] own "Event" = .external d.module := by
    rw [placement, hFind]
    rfl
  refine ⟨_, bindAll_eq_ok_iff.2 ⟨[], own, rfl, hOwn, rfl, ?_⟩, .pending "Event", [], own, rfl, rfl,
    ?_, rfl, rfl, hOwn, hFind⟩
  · refine unbound?_eq_none_iff.2 ⟨settled_decideAll home [] own soleTree, fun r hr => ?_⟩
    cases hr
  · rw [get?_decideAll_of_pending home [] own (b := .pending "Event") rfl rfl]
    exact congrArg (fun p => some { Binding.pending "Event" with placement := p }) hPlacement

theorem loadHome_soleAt (home : ModelHome) (file : String) :
    loadHome (soleAt home.dir file) home
      = .ok ((Package.empty home.module).declare "Event" ⟨home.module, file⟩) := by
  rw [loadHome, soleAt, if_pos rfl]

section CanPromote

variable {settings : Settings} {Admits : Introspector → Prop} {file : String}

theorem CanPromote.fileName_ne (h : CanPromote settings Admits file) :
    (Path.fileName? file).getD "" ≠ settings.modelFileName := by
  obtain ⟨introspect, -, sources, tree, bound, key, d, -, hPromoted, hFile⟩ := h
  rw [← Path.fileName?_eq_of_components_eq hFile]
  exact hPromoted.fileName_ne

theorem canPromote_of_admits (hAdmits : Admits (soleAt settings.modelDir file))
    (hNe : (Path.fileName? file).getD "" ≠ settings.modelFileName) :
    CanPromote settings Admits file := by
  have hOwn := loadHome_soleAt (.ofSettings settings) file
  rw [ModelHome.dir_ofSettings] at hOwn
  obtain ⟨bound, hBound, hPromoted⟩ := promoted_soleTree (d := ⟨settings.model.module, file⟩) hOwn
    (by rw [declarationsOf_sole]; exact List.find?_cons_of_pos (decide_eq_true hNe))
  exact ⟨_, hAdmits, [], soleTree, bound, "Event", _, hBound, hPromoted, rfl⟩

/-- Where packages are loaded from where they stand, a file has to lie beside the model file. -/
theorem canPromote_located_iff :
    CanPromote settings Introspector.Located file ↔
      Path.Within settings.modelDir file
        ∧ (Path.fileName? file).getD "" ≠ settings.modelFileName := by
  constructor
  · intro h
    refine ⟨?_, h.fileName_ne⟩
    obtain ⟨introspect, hLocated, sources, tree, bound, key, d, -, hPromoted, hFile⟩ := h
    have hWithin := hPromoted.within hLocated
    rw [ModelHome.dir_ofSettings, Path.Within, hFile] at hWithin
    exact hWithin
  · rintro ⟨hWithin, hNe⟩
    exact canPromote_of_admits (located_soleAt hWithin) hNe

theorem not_canPromote_modelFile (h : Path.fileName? settings.model.filename ≠ none) :
    ¬CanPromote settings Admits settings.modelFile := by
  intro hPromote
  obtain ⟨name, hName⟩ := Option.ne_none_iff_exists'.1 h
  refine hPromote.fileName_ne ?_
  rw [Settings.modelFile, Path.fileName?_join hName, Settings.modelFileName, hName]

end CanPromote

/-- **Which generated files are taken for ones written by hand.**  The model file is not, but any
other can be, unless it has the same name; with packages that are loaded from where they stand, such
as those of a disk, it has to lie in the directory of the model file. -/
theorem own_files_promoted_iff (settings : Settings) :
    (∀ tree recovered files, GeneratedFile.renderAll settings tree recovered = .ok files →
      (files.filter (·.overwrite)).map (·.path) = settings.ownFiles)
    ∧ (Path.fileName? settings.model.filename ≠ none →
      ¬CanPromote settings (fun _ => True) settings.modelFile)
    ∧ (∀ disk : Disk, disk.Plain → Introspector.Located (Code.introspect disk))
    ∧ ∀ file ∈ settings.ownFiles,
      (CanPromote settings (fun _ => True) file ↔
        (Path.fileName? file).getD "" ≠ settings.modelFileName)
      ∧ (CanPromote settings Introspector.Located file ↔
        Path.Within settings.modelDir file
          ∧ (Path.fileName? file).getD "" ≠ settings.modelFileName) := by
  refine ⟨fun tree recovered files => GeneratedFile.overwritten_eq, not_canPromote_modelFile,
    fun disk => Code.located_introspect, fun file _ => ⟨?_, canPromote_located_iff⟩⟩
  exact ⟨CanPromote.fileName_ne, canPromote_of_admits trivial⟩

end Autobind

/-! ### A dispatch file beside the models -/

namespace Sample

def apartSettings : Settings where
  schema := ["schema/*.graphql"]
  exec := ⟨"e/exec.rs", "crate::e"⟩
  model := ⟨"r/model.rs", "crate::r"⟩
  resolver := ⟨"s", "crate::s", Settings.usualTemplate⟩
  autobind := []
  root := ""

def sharedSettings : Settings := { apartSettings with exec := ⟨"r/exec.rs", "crate::r"⟩ }

theorem node?_dir_exec : dir.node? (["r"] ++ ["exec.rs"]) ≠ some .directory := by decide

def sharedDisk : Disk :=
  dir.put ["r"] "exec.rs" (.text "struct Event;") node?_dir (.inr node?_dir_exec)

theorem plain_sharedDisk : sharedDisk.Plain := by
  intro location name h
  have hKeys : sharedDisk.nodes.keys = [["r"], ["r", "exec.rs"]] := rfl
  rw [← Dict.mem_keys_iff, hKeys, List.mem_cons, List.mem_singleton] at h
  have hLast : name = "r" ∨ name = "exec.rs" :=
    h.imp (fun h => by simpa using congrArg List.getLast? h)
      fun h => by simpa using congrArg List.getLast? h
  rcases hLast with rfl | rfl
  · exact ⟨by decide, by decide, by decide⟩
  · exact ⟨by decide, by decide, by decide⟩

theorem typeNames?_event : Code.typeNames? "struct Event;".toList = some ["Event"] := by cbv

theorem introspect_sharedDisk : Code.introspect sharedDisk "crate::r" "r"
    = .ok ((Package.empty "crate::r").declare "Event" ⟨"crate::r::exec", "r/exec.rs"⟩) := by
  have hExists : sharedDisk.exists? "r" = true := by decide
  have hFile : sharedDisk.isFile "r" = false := by decide
  have hList : sharedDisk.list "r" = .ok ["exec.rs"] := by decide
  have hFiles : (["exec.rs"].map (Path.join "r")).filter
      (fun f => sharedDisk.isFile f && Code.isSource f) = ["r/exec.rs"] := by decide
  have hModule : Path.fileModule "crate::r" "r/exec.rs" = "crate::r::exec" := by decide
  have hText : sharedDisk.readText "r/exec.rs" = .ok "struct Event;" := by decide
  rw [Code.introspect, hExists, hFile, hList]
  simp only [Bool.not_true, Bool.false_eq_true, if_false]
  rw [hFiles, List.foldlM_cons, hModule, Code.scan, hText]
  simp only [typeNames?_event]
  rfl

end Sample

namespace Autobind

/-- With a directory of its own the dispatch file is safe. -/
theorem apart_files_are_safe :
    Sample.apartSettings.flaw? = none
    ∧ Introspector.Located (Code.introspect Sample.sharedDisk)
    ∧ ¬CanPromote Sample.apartSettings (fun _ => True) Sample.apartSettings.modelFile
    ∧ Sample.apartSettings.execFile ∈ Sample.apartSettings.ownFiles
    ∧ ¬CanPromote Sample.apartSettings Introspector.Located Sample.apartSettings.execFile := by
  obtain ⟨-, hModel, hDisk, hFiles⟩ := own_files_promoted_iff Sample.apartSettings
  have hMem := Sample.apartSettings.execFile_mem_ownFiles
  refine ⟨by decide, hDisk _ Sample.plain_sharedDisk, hModel (by decide), hMem, ?_⟩
  rw [(hFiles _ hMem).2]
  rintro ⟨hSame | ⟨name, hIn⟩, -⟩
  · exact absurd hSame (by decide)
  · have hDir : Path.components Sample.apartSettings.modelDir = ["r"] := by decide
    have hExec : Path.components Sample.apartSettings.execFile = ["e", "exec.rs"] := by decide
    rw [hDir, hExec] at hIn
    simp at hIn

/-- **A generated file can be taken for one written by hand.**  The dispatch file lies beside the
model file, and the type `Event` that it declares is taken from there. -/
theorem dispatch_file_is_promoted :
    Sample.sharedSettings.flaw? = none
    ∧ Sample.sharedSettings.execFile ∈ Sample.sharedSettings.ownFiles
    ∧ ∃ bound, bindAll (Code.introspect Sample.sharedDisk) (.ofSettings Sample.sharedSettings) []
        soleTree = .ok bound
      ∧ Promoted (Code.introspect Sample.sharedDisk) (.ofSettings Sample.sharedSettings) [] soleTree
        bound "Event" ⟨"crate::r::exec", Sample.sharedSettings.execFile⟩ := by
  have hHome : ModelHome.ofSettings Sample.sharedSettings
      = ⟨"crate::r", "r", "model.rs", "crate::r::model"⟩ := by decide
  have hOwn : loadHome (Code.introspect Sample.sharedDisk) (.ofSettings Sample.sharedSettings)
      = .ok ((Package.empty "crate::r").declare "Event" ⟨"crate::r::exec", "r/exec.rs"⟩) := by
    rw [hHome, loadHome, Sample.introspect_sharedDisk]
  refine ⟨by decide, Settings.execFile_mem_ownFiles _, promoted_soleTree hOwn ?_⟩
  rw [hHome]
  decide

end Autobind

end ResolverScaffold
