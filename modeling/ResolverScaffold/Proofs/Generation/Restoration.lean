import ResolverScaffold.Proofs.Generation.Retention

/-!
# A retained declaration that is asked for again

Files are rendered from one tree and recovered for another, which asks for the
function of a declaration that they retain.

* `revives_of_find?`: the body that is read from a declaration is the one that the
  enumerator finds there.
* `Listed.restored_of_retainedRead`: so a block whose function has no stub gives back
  that body.
* `restored_of_isLive`: its body is recovered, and it is retained no longer.
* `restored_needs_unmarked_module`: this needs a module without the opening mark,
  since the module stands at the top of every file.
-/

namespace ResolverScaffold

namespace Recovery

theorem revives_of_find? {enumerate : Enumerator} {dir key declaration body : String}
    {decls : List FunctionDecl} {decl : FunctionDecl}
    (hDecls : enumerate (Path.join dir (key ++ ".deprecated")) declaration = .ok decls)
    (hDecl : decls.find? (·.name == key) = some decl)
    (hBody : Text.sliceOf? declaration decl.body.start.offset decl.body.stop.offset = some body) :
    Revives enumerate dir key declaration body := by
  obtain ⟨hName, before, after, rfl, hBefore⟩ := List.find?_eq_some_iff_append.1 hDecl
  exact ⟨before, decl, after, hDecls, by simpa using hName, by simpa using hBefore, hBody⟩

/-- A block whose function is asked for and has no stub gives back what is read from it. -/
theorem Listed.restored_of_retainedRead {enumerate : Enumerator} {disk : Disk} {settings : Settings}
    {old new : Tree} {stubs : List Stub} {kept restored : Recovered} {key declaration body : String}
    (h : Listed enumerate disk settings old stubs kept) (hKeyed : new.FieldsKeyed)
    (hBlock : (retainedRead disk settings.resolverDir settings.resolverFiles).get? key
      = some declaration)
    (hApart : ∀ s ∈ stubs, s.key ≠ key) (hLive : (Signature.classify key new).isLive new = true)
    (hRevives : Revives enumerate settings.resolverDir key declaration body)
    (hLoad : load enumerate disk settings.resolverDir settings.resolverFiles new = .ok restored) :
    restored.bodies.get? key = some body ∧ restored.deprecated.get? key = none :=
  (h.settles_of_retainedRead hKeyed hBlock hApart hLoad).of_revives hLive hRevives

/-- **A retained declaration gives its body back.**  Files are rendered from a tree and a recovery,
and read for another tree, which asks for the function of a declaration that they retain.  Then the
body that the enumerator finds in the declaration is recovered, and the declaration is retained no
longer. -/
theorem restored_of_isLive {enumerate : Enumerator} {disk : Disk} {settings : Settings}
    {old new : Tree} {stubs : List Stub} {kept restored : Recovered} {key declaration body : String}
    {decls : List FunctionDecl} {decl : FunctionDecl} (hKeyed : new.FieldsKeyed)
    (hExec : Unmarked settings.execFileModule)
    (hUnmarked : ∀ s ∈ stubs, (∀ doc ∈ s.docs, Unmarked doc) ∧ Unmarked (s.code kept))
    (hReadBack : ∀ key declaration, kept.deprecated.get? key = some declaration →
      RetainedBlock.scan (RetainedBlock.render key declaration) = [⟨key, declaration⟩])
    (hListed : Listed enumerate disk settings old stubs kept)
    (hGet : kept.deprecated.get? key = some declaration) (hApart : ∀ s ∈ stubs, s.key ≠ key)
    (hLive : (Signature.classify key new).isLive new = true)
    (hDecls : enumerate (Path.join settings.resolverDir (key ++ ".deprecated")) declaration
      = .ok decls)
    (hDecl : decls.find? (·.name == key) = some decl)
    (hBody : Text.sliceOf? declaration decl.body.start.offset decl.body.stop.offset = some body)
    (hLoad : load enumerate disk settings.resolverDir settings.resolverFiles new = .ok restored) :
    restored.bodies.get? key = some body ∧ restored.deprecated.get? key = none := by
  have hBlock := hListed.get?_retainedRead
    (ResolverFile.scan_ofKind_of_unmarked hExec hUnmarked hReadBack) hGet
  exact hListed.restored_of_retainedRead hKeyed hBlock hApart hLive
    (revives_of_find? hDecls hDecl hBody) hLoad

end Recovery

/-! ### Another query -/

namespace Sample

/-- The settings of the small project with another module for the dispatch file. -/
def settingsIn (module : String) : Settings := { settings with exec := ⟨"exec.rs", module⟩ }

theorem resolverDir_settingsIn (module : String) :
    (settingsIn module).resolverDir = settings.resolverDir := rfl

theorem resolverFile_settingsIn (module : String) (kind : ResolverKind) :
    (settingsIn module).resolverFile kind = settings.resolverFile kind := rfl

theorem resolverFiles_settingsIn (module : String) :
    (settingsIn module).resolverFiles = settings.resolverFiles := rfl

/-- A recovery with the body of the query and the declaration of another one. -/
def kept : Recovered :=
  ⟨Dict.empty.insert "Query_a" "1", Dict.empty.insert "Query_b" "fn Query_b()\x7b2\x7d"⟩

/-- A tree that asks for the other query only. -/
def newTree : Tree :=
  { tree with queries := Dict.empty.insert "b" ⟨.query, "b", none, [], ⟨"Int", false, false⟩, []⟩ }

theorem fieldsKeyed_newTree : newTree.FieldsKeyed := fun _ _ h => nomatch h

def keptDecl : FunctionDecl :=
  ⟨"Query_b", .within "r/Query_b.deprecated" 0 15, .within "r/Query_b.deprecated" 13 14⟩

/-- Lists the functions of the rendered files and of the declaration. -/
def enumerateKept (module : String) : Enumerator := fun path _ =>
  .ok (if path = "r/query_resolver.rs" then [stubDecl (settingsIn module) kept path]
    else if path = "r/Query_b.deprecated" then [keptDecl] else [])

def keptDisk (module : String) : Disk := resolverDisk (rendered (settingsIn module) kept)

theorem listed_kept (module : String) : Recovery.Listed (enumerateKept module) (keptDisk module)
    (settingsIn module) tree [stub] kept where
  dir := by
    rw [resolverDir_settingsIn]
    rfl
  file kind := by
    rw [resolverFile_settingsIn]
    cases kind <;> rfl
  lists kind := by
    rw [resolverFile_settingsIn]
    cases kind <;> exact ⟨_, rfl, rfl⟩

theorem readText_query (module : String) : (keptDisk module).readText "r/query_resolver.rs"
    = .ok (rendered (settingsIn module) kept .query) := (rfl)

theorem cuts_declaration (module : String) :
    (stubDecl (settingsIn module) kept "r/query_resolver.rs").declaration.Cuts (keptDisk module)
      (stub.code kept) := by
  obtain ⟨after, hAfter⟩ := rendered_query (settingsIn module) kept
  have hText := readText_query module
  rw [hAfter] at hText
  exact Span.cuts_within hText (Text.sliceOf?_append _ _ _)

theorem exists_load_kept (module : String) :
    ∃ restored, Recovery.load (enumerateKept module) (keptDisk module)
      (settingsIn module).resolverDir (settingsIn module).resolverFiles newTree = .ok restored := by
  have hRead : Recovery.functionsRead (enumerateKept module) (keptDisk module)
      (settingsIn module).resolverDir (settingsIn module).resolverFiles
      = [stubDecl (settingsIn module) kept "r/query_resolver.rs"] := by
    rw [resolverDir_settingsIn, resolverFiles_settingsIn]
    rfl
  -- the first query is not asked for any more, so its whole text is wanted
  have hDead : (Signature.classify "Query_a" newTree).isLive newTree = false := rfl
  refine (listed_kept module).exists_load fun decl hDecl => ?_
  rw [hRead] at hDecl
  rw [List.mem_singleton.1 hDecl, Recovery.wanted, if_neg (by simp [stubDecl, stub, hDead])]
  exact ⟨_, _, readText_query module, cuts_declaration module⟩

theorem unmarked_kept : ∀ s ∈ [stub], (∀ doc ∈ s.docs, Unmarked doc) ∧ Unmarked (s.code kept) :=
  unmarked_stub (unmarked_of_notMem (c := 'g') (by decide) (by decide))

theorem readBack_kept {key declaration : String}
    (h : kept.deprecated.get? key = some declaration) :
    RetainedBlock.scan (RetainedBlock.render key declaration) = [⟨key, declaration⟩] :=
  Recovered.readBack_of_entries (by decide) h

theorem enumerateKept_deprecated (module declaration : String) :
    enumerateKept module (Path.join (settingsIn module).resolverDir ("Query_b" ++ ".deprecated"))
      declaration = .ok [keptDecl] := by
  rw [resolverDir_settingsIn]
  rfl

theorem revives_kept (module : String) {declaration body : String}
    (hBody : Text.sliceOf? declaration keptDecl.body.start.offset keptDecl.body.stop.offset
      = some body) :
    Recovery.Revives (enumerateKept module) (settingsIn module).resolverDir "Query_b" declaration
      body :=
  Recovery.revives_of_find? (enumerateKept_deprecated module declaration) rfl hBody

def markedLines : String :=
  "\n// lambdagen:deprecated Query_b\n// fn Query_b()\x7b3\x7d\n// lambdagen:end"

/-- A module with this block before its path. -/
def markedModule : String := markedLines ++ "\n\ncrate"

theorem execFileModule_settingsIn (module : String) :
    (settingsIn module).execFileModule = module ++ "::exec" := by
  have hStem : Path.stem? "exec.rs" = some "exec" := by decide
  simp [Settings.execFileModule, Path.fileModule, settingsIn, hStem, String.append_assoc]

theorem scan_importLine_marked :
    RetainedBlock.scan (ResolverFile.importLine (settingsIn markedModule).execFileModule)
      = [⟨"Query_b", "fn Query_b()\x7b3\x7d"⟩] := by
  -- the empty line parts the block from the path
  have hText : (ResolverFile.importLine (markedModule ++ "::exec")).toList
      = ("use " ++ markedLines).toList ++ '\n' :: '\n' :: ("crate::exec"
        ++ "::\x7bAuthHeader, Event, LambdaError, MiddlewareData\x7d;").toList := by
    simp [ResolverFile.importLine, markedModule]
  have hPath : Unmarked ("crate::exec"
      ++ "::\x7bAuthHeader, Event, LambdaError, MiddlewareData\x7d;") :=
    unmarked_of_notMem (c := 'g') (by decide) (by decide)
  have hLines : RetainedBlock.scanChars ("use " ++ markedLines).toList
      = [⟨"Query_b", "fn Query_b()\x7b3\x7d"⟩] := by decide
  rw [RetainedBlock.scan, execFileModule_settingsIn, hText,
    RetainedBlock.scanChars_append_emptyLine, hLines, RetainedBlock.scanChars_eq_nil hPath,
    List.append_nil]

theorem get?_retainedRead_marked :
    (Recovery.retainedRead (keptDisk markedModule) (settingsIn markedModule).resolverDir
      (settingsIn markedModule).resolverFiles).get? "Query_b" = some "fn Query_b()\x7b3\x7d" := by
  -- the block of the module stands in the last file too, so it is the last one of its key
  have hFiles : Recovery.filesRead (keptDisk markedModule) (settingsIn markedModule).resolverDir
      (settingsIn markedModule).resolverFiles
      = settings.resolverFiles.take 4 ++ ["r/webhook_resolver.rs"] := by
    rw [resolverDir_settingsIn, resolverFiles_settingsIn]
    rfl
  have hText : (keptDisk markedModule).readText "r/webhook_resolver.rs"
      = .ok (rendered (settingsIn markedModule) kept .webhook) := (rfl)
  have hCode : (ResolverFile.ofKind (settingsIn markedModule) tree [stub] kept .webhook).code
      = Text.ofLines (ResolverFile.headLines (settingsIn markedModule).execFileModule) := (rfl)
  have hBlocks : (ResolverFile.ofKind (settingsIn markedModule) tree [stub] kept .webhook).blocks
      = [] := (rfl)
  have hLast : Recovery.blocksIn (keptDisk markedModule) "r/webhook_resolver.rs"
      = [⟨"Query_b", "fn Query_b()\x7b3\x7d"⟩] := by
    simp only [Recovery.blocksIn, hText]
    rw [rendered, ResolverFile.scan_render, hCode, hBlocks, ResolverFile.scan_headLines,
      scan_importLine_marked, List.flatMap_nil, List.append_nil]
  have hRead : Recovery.blocksRead (keptDisk markedModule) (settingsIn markedModule).resolverDir
      (settingsIn markedModule).resolverFiles
      = (settings.resolverFiles.take 4).flatMap (Recovery.blocksIn (keptDisk markedModule))
        ++ [⟨"Query_b", "fn Query_b()\x7b3\x7d"⟩] := by
    rw [Recovery.blocksRead, hFiles, List.flatMap_append, List.flatMap_singleton, hLast]
  exact (Recovery.get?_retainedRead_last hRead fun _ h => (List.not_mem_nil h).elim :)

end Sample

namespace Recovery

/-- With a plain module the body of the declaration comes back. -/
theorem restored_of_kept :
    ∃ restored, load (Sample.enumerateKept "crate") (Sample.keptDisk "crate")
        (Sample.settingsIn "crate").resolverDir (Sample.settingsIn "crate").resolverFiles
        Sample.newTree = .ok restored
      ∧ restored.bodies.get? "Query_b" = some "2" ∧ restored.deprecated.get? "Query_b" = none := by
  obtain ⟨restored, hLoad⟩ := Sample.exists_load_kept "crate"
  have hGet : Sample.kept.deprecated.get? "Query_b" = some "fn Query_b()\x7b2\x7d" := rfl
  have hExec : Unmarked (Sample.settingsIn "crate").execFileModule :=
    unmarked_of_notMem (c := 'g') (by decide) (by decide)
  exact ⟨restored, hLoad, restored_of_isLive Sample.fieldsKeyed_newTree hExec Sample.unmarked_kept
    (fun _ _ => Sample.readBack_kept) (Sample.listed_kept "crate") hGet (by decide) rfl
    (Sample.enumerateKept_deprecated _ _) rfl rfl hLoad⟩

/-- **A marked module takes the place of a retained declaration.**  The declaration of the other query
reads back and the stubs are unmarked, but the module has a block of this query too; it stands in the
last file, and its body is recovered. -/
theorem restored_needs_unmarked_module :
    Sample.newTree.FieldsKeyed ∧ Stub.all Sample.tree = .ok [Sample.stub]
    ∧ (∀ s ∈ [Sample.stub], (∀ doc ∈ s.docs, Unmarked doc) ∧ Unmarked (s.code Sample.kept))
    ∧ (∀ key declaration, Sample.kept.deprecated.get? key = some declaration →
      RetainedBlock.scan (RetainedBlock.render key declaration) = [⟨key, declaration⟩])
    ∧ Listed (Sample.enumerateKept Sample.markedModule) (Sample.keptDisk Sample.markedModule)
        (Sample.settingsIn Sample.markedModule) Sample.tree [Sample.stub] Sample.kept
    ∧ Sample.kept.deprecated.get? "Query_b" = some "fn Query_b()\x7b2\x7d"
    ∧ (∀ s ∈ [Sample.stub], s.key ≠ "Query_b")
    ∧ (Signature.classify "Query_b" Sample.newTree).isLive Sample.newTree = true
    ∧ Sample.enumerateKept Sample.markedModule
        (Path.join (Sample.settingsIn Sample.markedModule).resolverDir ("Query_b" ++ ".deprecated"))
        "fn Query_b()\x7b2\x7d" = .ok [Sample.keptDecl]
    ∧ [Sample.keptDecl].find? (·.name == "Query_b") = some Sample.keptDecl
    ∧ Text.sliceOf? "fn Query_b()\x7b2\x7d" Sample.keptDecl.body.start.offset
        Sample.keptDecl.body.stop.offset = some "2"
    ∧ ∃ restored, load (Sample.enumerateKept Sample.markedModule)
        (Sample.keptDisk Sample.markedModule) (Sample.settingsIn Sample.markedModule).resolverDir
        (Sample.settingsIn Sample.markedModule).resolverFiles Sample.newTree = .ok restored
      ∧ restored.bodies.get? "Query_b" = some "3" := by
  have hListed := Sample.listed_kept Sample.markedModule
  have hApart : ∀ s ∈ [Sample.stub], s.key ≠ "Query_b" := by decide
  have hLive : (Signature.classify "Query_b" Sample.newTree).isLive Sample.newTree = true := rfl
  obtain ⟨restored, hLoad⟩ := Sample.exists_load_kept Sample.markedModule
  have hBody : Text.sliceOf? "fn Query_b()\x7b3\x7d" Sample.keptDecl.body.start.offset
      Sample.keptDecl.body.stop.offset = some "3" := rfl
  obtain ⟨hRestored, -⟩ := hListed.restored_of_retainedRead Sample.fieldsKeyed_newTree
    Sample.get?_retainedRead_marked hApart hLive (Sample.revives_kept _ hBody) hLoad
  exact ⟨Sample.fieldsKeyed_newTree, Sample.all_tree, Sample.unmarked_kept,
    fun _ _ => Sample.readBack_kept, hListed, rfl, hApart, hLive,
    Sample.enumerateKept_deprecated Sample.markedModule _, rfl, rfl, restored, hLoad, hRestored⟩

end Recovery

end ResolverScaffold
