import Mathlib
import ResolverScaffold.Proofs.Generation.Preservation
import ResolverScaffold.Proofs.Render.Files

/-!
# The footprint of a run

A run that fails before it writes leaves the disk as it was.  One that cannot write a
file stops there; that file is as it was too, unless the device has cut it short.  One
that succeeds changes the files it reports as written: some of its eight outputs, and
never a list of resolver modules that was there.

* `run_touches_only_outputs`: all of this.
* `stopped_run_changes_more`: a full device empties the file at which a run stops, and
  directories that were made for it stay.
-/

namespace ResolverScaffold

/-- The files that a run writes: those it replaces and the list of resolver modules. -/
def Settings.outputs (s : Settings) : List String :=
  s.ownFiles ++ [(GeneratedFile.moduleList s).path]

namespace Generation

variable {disk after : Disk} {settings : Settings}

theorem files_of_prepare {recovered : Recovered} {files : List GeneratedFile}
    (h : prepare disk settings = .ok (recovered, files)) :
    ∃ own, files = own ++ [GeneratedFile.moduleList settings]
      ∧ own.map (·.path) = settings.ownFiles := by
  obtain ⟨tree, -, h⟩ := bind_eq_ok_iff.1 h
  obtain ⟨found, -, h⟩ := bind_eq_ok_iff.1 h
  obtain ⟨rendered, hRender, h⟩ := bind_eq_ok_iff.1 h
  rw [pure_eq_ok_iff] at h
  cases h
  obtain ⟨own, hFiles, hPaths, -⟩ := GeneratedFile.renderAll_eq_ok (mapError_eq_ok_iff.1 hRender)
  exact ⟨own, hFiles, hPaths⟩

theorem paths_of_prepare {recovered : Recovered} {files : List GeneratedFile}
    (h : prepare disk settings = .ok (recovered, files)) :
    files.map (·.path) = settings.outputs := by
  obtain ⟨own, rfl, hOwn⟩ := files_of_prepare h
  rw [List.map_append, hOwn]
  rfl

/-- How a run ends: before anything is written, at a file that cannot be written, or well. -/
theorem run_cases (disk : Disk) (settings : Settings) :
    (∃ e, prepare disk settings = .error e ∧ run disk settings = (disk, .error e))
      ∨ ∃ recovered files, prepare disk settings = .ok (recovered, files)
        ∧ ((∃ e, (writeAll disk files).error = some e
            ∧ run disk settings = ((writeAll disk files).disk, .error (.writing e)))
          ∨ ∃ report, (writeAll disk files).error = none
            ∧ run disk settings = ((writeAll disk files).disk, .ok report)
            ∧ report.written = pathsWith .written (writeAll disk files).outcomes
            ∧ report.skipped = pathsWith .skipped (writeAll disk files).outcomes) := by
  rw [run]
  cases hPrepare : prepare disk settings with
  | error e => exact .inl ⟨e, rfl, rfl⟩
  | ok prepared =>
    obtain ⟨recovered, files⟩ := prepared
    refine .inr ⟨recovered, files, rfl, ?_⟩
    dsimp only
    cases hError : (writeAll disk files).error with
    | none => exact .inr ⟨_, rfl, rfl, rfl, rfl⟩
    | some e => exact .inl ⟨e, rfl, rfl⟩

theorem boundTree_ne_writing (disk : Disk) (settings : Settings) (e : WriteError) :
    boundTree disk settings ≠ .error (.writing e) :=
  bind_ne_error (mapError_ne_error nofun) fun _ =>
    bind_ne_error (mapError_ne_error nofun) fun _ =>
      bind_ne_error (mapError_ne_error nofun) fun _ =>
        bind_ne_error (mapError_ne_error nofun) fun _ => mapError_ne_error nofun

theorem prepare_ne_writing (disk : Disk) (settings : Settings) (e : WriteError) :
    prepare disk settings ≠ .error (.writing e) :=
  bind_ne_error (boundTree_ne_writing disk settings e) fun _ =>
    bind_ne_error (mapError_ne_error nofun) fun _ =>
      bind_ne_error (mapError_ne_error nofun) fun _ => nofun

theorem eq_of_run_eq_error {e : GenerationError} (h : run disk settings = (after, .error e))
    (hEarly : ∀ reason, e ≠ .writing reason) : after = disk := by
  rcases run_cases disk settings with ⟨e', -, hRun⟩ | ⟨recovered, files, -, hEnd⟩
  · rw [hRun] at h
    cases h
    rfl
  · rcases hEnd with ⟨reason, -, hRun⟩ | ⟨report, -, hRun, -⟩
    · rw [hRun] at h
      cases h
      exact absurd rfl (hEarly reason)
    · rw [hRun] at h
      cases h

theorem run_eq_writing_error {e : WriteError}
    (h : run disk settings = (after, .error (.writing e))) :
    ∃ recovered before file rest,
      prepare disk settings = .ok (recovered, before ++ file :: rest)
        ∧ (writeAll disk before).error = none
        ∧ file.write (writeAll disk before).disk = (after, .error e) := by
  rcases run_cases disk settings with ⟨e', hPrepare, hRun⟩ | ⟨recovered, files, hPrepare, hEnd⟩
  · rw [hRun] at h
    cases h
    exact absurd hPrepare (prepare_ne_writing disk settings e)
  · rcases hEnd with ⟨reason, hError, hRun⟩ | ⟨report, -, hRun, -⟩
    · rw [hRun] at h
      cases h
      obtain ⟨before, file, rest, rfl, hBefore, hFile⟩ := writeAll_eq_error hError
      exact ⟨recovered, before, file, rest, hPrepare, hBefore, hFile⟩
    · rw [hRun] at h
      cases h

/-- What has changed where a file could not be written: files before it, and the file itself if it
was cut short. -/
theorem altersOnly_of_write_eq_error {before : List GeneratedFile} {file : GeneratedFile}
    {e : WriteError} (hBefore : (writeAll disk before).error = none)
    (hFile : file.write (writeAll disk before).disk = (after, .error e)) :
    disk.AltersOnly after ((before.map (·.path)).map disk.destination)
      ∨ disk.AltersOnly after (((before ++ [file]).map (·.path)).map disk.destination)
        ∧ file.CutShort (writeAll disk before).disk after e := by
  have hWritten := pathsWith_sublist .written (writeAll disk before).outcomes
  rw [outcomes_of_writeAll hBefore] at hWritten
  have hEarlier := (altersOnly_writeAll hBefore).mono (hWritten.map disk.destination).subset
  rcases (GeneratedFile.write_eq_error hFile).1 with hNothing | hCut
  · have hStopped := hEarlier.trans hNothing
    rw [List.append_nil] at hStopped
    exact .inl hStopped
  · have hStopped := hEarlier.trans hCut.alters
    rw [hEarlier.destination_eq] at hStopped
    refine .inr ⟨?_, hCut⟩
    rw [List.map_append, List.map_append]
    exact hStopped

theorem run_eq_ok {report : Report} (h : run disk settings = (after, .ok report)) :
    report.written.Sublist settings.outputs
      ∧ disk.AltersOnly after (report.written.map disk.destination)
      ∧ ((settings.outputs.map disk.destination).Nodup →
        disk.exists? (GeneratedFile.moduleList settings).path = true →
        (GeneratedFile.moduleList settings).path ∈ report.skipped
          ∧ after.look (GeneratedFile.moduleList settings).path
            = disk.look (GeneratedFile.moduleList settings).path) := by
  rcases run_cases disk settings with ⟨e', -, hRun⟩ | ⟨recovered, files, hPrepare, hEnd⟩
  · rw [hRun] at h
    cases h
  rcases hEnd with ⟨reason, -, hRun⟩ | ⟨report', hDone, hRun, hWritten, hSkipped⟩
  · rw [hRun] at h
    cases h
  rw [hRun] at h
  cases h
  rw [hWritten, hSkipped]
  refine ⟨?_, altersOnly_writeAll hDone, fun hDistinct hExists => ?_⟩
  · rw [← paths_of_prepare hPrepare, ← outcomes_of_writeAll hDone]
    exact pathsWith_sublist .written _
  · rw [← paths_of_prepare hPrepare, List.map_map] at hDistinct
    obtain ⟨own, rfl, -⟩ := files_of_prepare hPrepare
    exact look_of_exists? hDistinct hDone List.getElem?_concat_length rfl hExists

/-- A run that fails to read, to bind or to render leaves the disk as it is.  A run that fails to
write a file has changed no file but those before it, unless the device has taken a part of this file
and no more; then the file holds that part.  A run that succeeds has changed no file but those of its
eight outputs that it reports as written, and a list of resolver modules that was there is never one
of them. -/
theorem run_touches_only_outputs (disk : Disk) (settings : Settings) :
    settings.outputs.length = 8
      ∧ (∀ after e, run disk settings = (after, .error e) → (∀ reason, e ≠ .writing reason) →
        after = disk)
      ∧ (∀ after e, run disk settings = (after, .error (.writing e)) →
        ∃ recovered before file rest,
          prepare disk settings = .ok (recovered, before ++ file :: rest)
            ∧ (before ++ file :: rest).map (·.path) = settings.outputs
            ∧ (writeAll disk before).error = none
            ∧ file.write (writeAll disk before).disk = (after, .error e)
            ∧ file.Concerns e
            ∧ (disk.AltersOnly after ((before.map (·.path)).map disk.destination)
              ∨ disk.AltersOnly after (((before ++ [file]).map (·.path)).map disk.destination)
                ∧ file.CutShort (writeAll disk before).disk after e)
            ∧ ((∀ nodes nodes' bytes reason, disk.device nodes nodes' ≠ .cut bytes reason) →
              disk.AltersOnly after ((before.map (·.path)).map disk.destination)))
      ∧ (∀ after report, run disk settings = (after, .ok report) →
        report.written.Sublist settings.outputs
          ∧ disk.AltersOnly after (report.written.map disk.destination)
          ∧ ((settings.outputs.map disk.destination).Nodup →
            disk.exists? (GeneratedFile.moduleList settings).path = true →
            (GeneratedFile.moduleList settings).path ∈ report.skipped
              ∧ after.look (GeneratedFile.moduleList settings).path
                = disk.look (GeneratedFile.moduleList settings).path)) := by
  refine ⟨rfl, fun after e h => eq_of_run_eq_error h, fun after e h => ?_,
    fun after report h => run_eq_ok h⟩
  obtain ⟨recovered, before, file, rest, hPrepare, hBefore, hFile⟩ := run_eq_writing_error h
  have hAlters := altersOnly_of_write_eq_error hBefore hFile
  refine ⟨recovered, before, file, rest, hPrepare, paths_of_prepare hPrepare, hBefore, hFile,
    (GeneratedFile.write_eq_error hFile).2, hAlters, fun hWhole => ?_⟩
  rcases hAlters with hAlters | ⟨-, hCut⟩
  · exact hAlters
  · obtain ⟨nodes, nodes', bytes, hDevice⟩ := hCut.device
    rw [(altersOnly_writeAll hBefore).device] at hDevice
    exact absurd hDevice (hWhole nodes nodes' bytes e.reason)

end Generation

/-! ### Two runs that stop at the model file -/

namespace Generation

theorem run_of_write_eq_error {recovered : Recovered} {file : GeneratedFile}
    {rest : List GeneratedFile} {e : WriteError}
    (hPrepare : prepare disk settings = .ok (recovered, file :: rest))
    (hWrite : file.write disk = (after, .error e)) :
    run disk settings = (after, .error (.writing e)) := by
  have hAll : writeAll disk (file :: rest) = ⟨after, [], some e⟩ := by
    rw [writeAll, hWrite]
  rw [run, hPrepare]
  simp only [hAll]

end Generation

namespace Sample

/-- A disk with the schema of the small project and nothing else. -/
def schemaDisk : Disk :=
  (writeAll .empty [⟨source.name, source.text, true⟩]).disk

/-- The disk with a model file, on a device that has no room left. -/
def fullDisk : Disk :=
  { (writeAll schemaDisk [⟨"model.rs", "x", true⟩]).disk with
    device := fun _ _ => .cut 0 .noSpace }

/-- The settings of the small project with another model file. -/
def settingsWith (model : String) : Settings := { settings with model := ⟨model, "crate"⟩ }

theorem schemaFiles_settingsWith {disk : Disk} (model : String)
    (hThere : disk.exists? "schema.graphql" = true) :
    (settingsWith model).schemaFiles disk = .ok ["schema.graphql"] := by
  have hPattern : Glob.Pattern.ofText? "schema.graphql".toList
      = some ⟨false, [.name "schema.graphql"], false⟩ := by cbv
  have hJoin : Path.join (settingsWith model).root "schema.graphql" = "schema.graphql" := by
    rw [Path.join]
    simp [settingsWith, settings]
  have hFound : Glob.Pattern.expand disk ⟨false, [.name "schema.graphql"], false⟩
      = ["schema.graphql"] := by
    simp [Glob.Pattern.expand, Glob.collapse, Glob.expandFrom, Glob.found, Glob.within, hThere]
  have hExpand : Settings.expandPattern disk (settingsWith model) "schema.graphql"
      = .ok ["schema.graphql"] := by
    unfold Settings.expandPattern
    rw [hJoin, hPattern]
    dsimp only
    rw [hFound]
  have hSchema : (settingsWith model).schema = ["schema.graphql"] := rfl
  unfold Settings.schemaFiles
  rw [hSchema, List.mapM_cons, List.mapM_nil, hExpand]
  rfl

/-- The tree of the small project needs no models that are there. -/
theorem boundTree_settingsWith {disk : Disk} {model : String}
    (hText : disk.readText source.name = .ok source.text)
    (hHome : disk.exists? (settingsWith model).modelDir = false) :
    Generation.boundTree disk (settingsWith model) = .ok tree := by
  have hFiles := schemaFiles_settingsWith model (Disk.exists?_of_readText hText)
  have hSource : [source.name].mapM (Schema.Source.read disk) = .ok [source] := by
    rw [List.mapM_cons, List.mapM_nil, Schema.Source.read, hText]
    rfl
  have hBind : Autobind.bindAll (Code.introspect disk) (.ofSettings (settingsWith model)) [] tree
      = .ok tree := by
    have hNone : Code.introspect disk "crate" (settingsWith model).modelDir = .error .missing := by
      rw [Code.introspect, hHome]
      rfl
    refine Autobind.bindAll_eq_ok_iff.2 ⟨[], .empty "crate", rfl, ?_, rfl, rfl⟩
    have hModule : (ModelHome.ofSettings (settingsWith model)).module = "crate" := rfl
    rw [Autobind.loadHome, hModule]
    simp only [ModelHome.ofSettings, hNone]
  exact bind_eq_ok_iff.2 ⟨_, mapError_eq_ok_iff.2 hFiles, bind_eq_ok_iff.2
    ⟨_, mapError_eq_ok_iff.2 hSource, bind_eq_ok_iff.2 ⟨_, mapError_eq_ok_iff.2 load_source,
      bind_eq_ok_iff.2 ⟨_, mapError_eq_ok_iff.2 ofDocument_document, mapError_eq_ok_iff.2 hBind⟩⟩⟩⟩

/-- The schema of the small project is rendered wherever no models and no resolvers are yet. -/
theorem exists_prepare (disk : Disk) (model : String)
    (hText : disk.readText source.name = .ok source.text)
    (hHome : disk.exists? (settingsWith model).modelDir = false)
    (hResolvers : disk.exists? (settingsWith model).resolverDir = false) :
    ∃ (models : ModelFile) (rest : List GeneratedFile),
      Generation.prepare disk (settingsWith model)
        = .ok (.empty, ⟨(settingsWith model).modelFile, models.render, true⟩ :: rest) := by
  have hTree := boundTree_settingsWith hText hHome
  have hLoad : Recovery.load Code.functions disk (settingsWith model).resolverDir
      (settingsWith model).resolverFiles tree = .ok .empty := by
    rw [Recovery.load, if_neg (by simp [hResolvers])]
    rfl
  obtain ⟨doc, -, hDrawn, hDecided⟩ := isBound_tree.exists_document
  obtain ⟨models, hModels⟩ := exists_modelFile hDrawn hDecided
  obtain ⟨stubs, hStubs⟩ := exists_stubs hDrawn hDecided
  obtain ⟨dispatch, hDispatch⟩ := exists_dispatch hDrawn hDecided (settingsWith model)
  have hRender : GeneratedFile.renderAll (settingsWith model) tree .empty
      = .ok (⟨(settingsWith model).modelFile, models.render, true⟩
        :: ResolverKind.all.map
          (GeneratedFile.ofResolvers (settingsWith model) tree stubs .empty)
        ++ [⟨(settingsWith model).execFile, dispatch.render, true⟩,
          GeneratedFile.moduleList (settingsWith model)]) := by
    rw [GeneratedFile.renderAll, hModels, hStubs, hDispatch]
    rfl
  exact ⟨models, _, bind_eq_ok_iff.2 ⟨_, hTree, bind_eq_ok_iff.2 ⟨_, mapError_eq_ok_iff.2 hLoad,
    bind_eq_ok_iff.2 ⟨_, mapError_eq_ok_iff.2 hRender, rfl⟩⟩⟩⟩

theorem render_ne (models : ModelFile) : "x" ≠ models.render := by
  intro hSame
  obtain ⟨front, hEnd⟩ : ∃ front, models.render.toList = front ++ ['\n'] :=
    Text.exists_toList_ofLines_eq_concat (by simp [ModelFile.head])
  have hLast : "x".toList.getLast? = some '\n' := by
    rw [hSame, hEnd, List.getLast?_concat]
  exact absurd hLast (by decide)

theorem firstBytes_zero (content : String) : DiskNode.firstBytes content 0 = .text "" := by
  rw [DiskNode.firstBytes, Nat.zero_min, Text.takeBytes?]

/-- The model file is emptied. -/
theorem write_fullDisk (models : ModelFile) : ∃ after,
    GeneratedFile.write fullDisk ⟨"model.rs", models.render, true⟩
        = (after, .error ⟨"model.rs", .noSpace⟩)
      ∧ after.readText "model.rs" = .ok "" := by
  have hOld : fullDisk.readText "model.rs" = .ok "x" := by decide
  have hStale : GeneratedFile.isCurrent fullDisk ⟨"model.rs", models.render, true⟩ = false := by
    rw [GeneratedFile.isCurrent, hOld, beq_eq_false_iff_ne]
    exact render_ne models
  have hPath : Path.parent? "model.rs" = some "" := by decide
  have hParent : GeneratedFile.makeParent fullDisk ⟨"model.rs", models.render, true⟩
      = (fullDisk, none) := by
    simp only [GeneratedFile.makeParent, hPath]
    rfl
  have hTarget : fullDisk.target "model.rs" = .ok (some ([], "model.rs", false)) := by decide
  have hKeep : fullDisk.node? ([] ++ ["model.rs"]) ≠ some .directory := by decide
  have hNode : ∀ node, fullDisk.writeNode "model.rs" node
      = .ok (fullDisk.put [] "model.rs" node rfl (.inr hKeep)) :=
    fun node => Disk.writeNode_of_target hTarget rfl hKeep
  have hDevice : ∀ nodes, fullDisk.device fullDisk.nodes nodes = .cut 0 .noSpace := fun _ => rfl
  have hSave : fullDisk.save "model.rs" models.render
      = (fullDisk.put [] "model.rs" (.text "") rfl (.inr hKeep), some .noSpace) := by
    simp only [Disk.save, Disk.writeText, hNode, hDevice, firstBytes_zero]
  refine ⟨fullDisk.put [] "model.rs" (.text "") rfl (.inr hKeep), ?_,
    Disk.readText_eq_ok_iff.2 (Disk.look_of_writeNode (hNode _))⟩
  rw [GeneratedFile.write, hStale, GeneratedFile.store, hParent]
  simp [hSave]

/-- The directory of the model file is made, and then the path is no path of a file. -/
theorem write_slashed (models : ModelFile) : ∃ after,
    GeneratedFile.write schemaDisk ⟨"a/b/", models.render, true⟩
        = (after, .error ⟨"a/b/", .isADirectory⟩)
      ∧ after.look "a" = .ok .directory := by
  have hMissing : schemaDisk.readText "a/b/" = .error .notFound := by decide
  have hStale : GeneratedFile.isCurrent schemaDisk ⟨"a/b/", models.render, true⟩ = false := by
    rw [GeneratedFile.isCurrent, hMissing]
  have hPath : Path.parent? "a/b/" = some "a" := by decide
  have hNone : (schemaDisk.makeDirectories "a").2 = none := by decide
  have hParent : GeneratedFile.makeParent schemaDisk ⟨"a/b/", models.render, true⟩
      = ((schemaDisk.makeDirectories "a").1, none) := by
    simp only [GeneratedFile.makeParent, hPath, hNone, Option.map_none]
  have hSlash : (schemaDisk.makeDirectories "a").1.target "a/b/"
      = .ok (some (["a"], "b", true)) := by decide
  have hSave : (schemaDisk.makeDirectories "a").1.save "a/b/" models.render
      = ((schemaDisk.makeDirectories "a").1, some .isADirectory) := by
    rw [Disk.save, Disk.writeText, Disk.writeNode, hSlash]
    rfl
  refine ⟨(schemaDisk.makeDirectories "a").1, ?_, by decide⟩
  rw [GeneratedFile.write, hStale, GeneratedFile.store, hParent]
  simp [hSave]

theorem outputs_settingsWith {model : String} (h : (settingsWith model).modelFile = model) :
    (settingsWith model).outputs
      = [model, "r/query_resolver.rs", "r/mutation_resolver.rs", "r/field_resolver.rs",
        "r/middleware_resolver.rs", "r/webhook_resolver.rs", "exec.rs", "r/mod.rs"] := by
  have hOthers : settings.outputs.tail
      = ["r/query_resolver.rs", "r/mutation_resolver.rs", "r/field_resolver.rs",
        "r/middleware_resolver.rs", "r/webhook_resolver.rs", "exec.rs", "r/mod.rs"] := by decide
  have hOutputs : (settingsWith model).outputs
      = (settingsWith model).modelFile :: settings.outputs.tail := rfl
  rw [hOutputs, h, hOthers]

end Sample

/-- **A run that stops at a file can change more than the files before it.**  Where the device has no
room left, the model file is emptied, although no file comes before it.  And where a file cannot be
written, the directories that were made for it stay. -/
theorem Generation.stopped_run_changes_more :
    (Sample.settings.outputs.head? = some "model.rs"
      ∧ (Sample.settings.outputs.map Sample.fullDisk.destination).Nodup
      ∧ Sample.fullDisk.readText "model.rs" = .ok "x"
      ∧ ∃ after, run Sample.fullDisk Sample.settings
          = (after, .error (.writing ⟨"model.rs", .noSpace⟩))
        ∧ after.readText "model.rs" = .ok "")
    ∧ (Sample.settingsWith "a/b/").outputs.head? = some "a/b/"
      ∧ ((Sample.settingsWith "a/b/").outputs.map Sample.schemaDisk.destination).Nodup
      ∧ Sample.schemaDisk.exists? "a" = false
      ∧ ∃ after, run Sample.schemaDisk (Sample.settingsWith "a/b/")
          = (after, .error (.writing ⟨"a/b/", .isADirectory⟩))
        ∧ after.look "a" = .ok .directory := by
  obtain ⟨models, rest, hPrepare⟩ :=
    Sample.exists_prepare Sample.fullDisk "model.rs" (by decide) (by decide) (by decide)
  have hFile : (Sample.settingsWith "model.rs").modelFile = "model.rs" := by decide
  rw [hFile] at hPrepare
  obtain ⟨after, hWrite, hEmptied⟩ := Sample.write_fullDisk models
  obtain ⟨models', rest', hPrepare'⟩ :=
    Sample.exists_prepare Sample.schemaDisk "a/b/" (by decide) (by decide) (by decide)
  have hFile' : (Sample.settingsWith "a/b/").modelFile = "a/b/" := by decide
  rw [hFile'] at hPrepare'
  obtain ⟨after', hWrite', hMade⟩ := Sample.write_slashed models'
  have hOutputs : Sample.settings.outputs = _ := Sample.outputs_settingsWith hFile
  rw [hOutputs, Sample.outputs_settingsWith hFile']
  exact ⟨⟨rfl, by decide, by decide, after, run_of_write_eq_error hPrepare hWrite, hEmptied⟩,
    rfl, by decide, by decide, after', run_of_write_eq_error hPrepare' hWrite', hMade⟩

end ResolverScaffold
