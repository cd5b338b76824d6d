import ResolverScaffold.Proofs.Generation.Regeneration

/-!
# What becomes of a retained declaration

A declaration that nothing asks for is written as a block, and the next run reads
the block.  Here files are rendered from a recovery and recovered once more.

* `Survives`: the next recovery still has the declaration, or the body of the
  function that it declares.
* `revive?_eq_none_of_load`: a declaration that is retained although its function
  is asked for gives no body back.
* `Reread.lost_of_isLive`, `Reread.not_survives_of_isLive`: such a declaration is
  lost.  Its stub was rendered with the usual body, and the next recovery takes that
  for the function.
* `Listed.settles_of_retainedRead`: a declaration that has no stub is settled by its
  block, whatever becomes of the functions.
* `survives_iff`: so a declaration survives if and only if it has no stub and its
  block is the last one of its key.
-/

namespace ResolverScaffold

namespace Recovery

/-- A retained declaration is still there: as it was, or as the body of its function. -/
def Survives (enumerate : Enumerator) (dir : String) (again : Recovered) (key declaration : String) :
    Prop :=
  again.deprecated.get? key = some declaration
    ∨ ∃ body, revive? enumerate dir key declaration = some body
      ∧ again.bodies.get? key = some body

/-- A declaration is retained under a key that is asked for only if no body can be read from it. -/
theorem revive?_eq_none_of_load {enumerate : Enumerator} {disk : Disk} {dir : String}
    {files : List String} {tree : Tree} {recovered : Recovered} (hKeyed : tree.FieldsKeyed)
    (hLoad : load enumerate disk dir files tree = .ok recovered) {key declaration : String}
    (hLive : (Signature.classify key tree).isLive tree = true)
    (hGet : recovered.deprecated.get? key = some declaration) :
    revive? enumerate dir key declaration = none := by
  have hContains : recovered.contains key = true := by
    simp [Recovered.contains, Dict.contains, hGet]
  rcases origin_of_contains hKeyed hLoad hContains with ⟨decl, -, rfl, hKept⟩ | ⟨block, -, -, hKept⟩
  · -- of a function that is asked for the body is kept, and nothing else
    rw [Keeps, if_pos hLive] at hKept
    obtain ⟨text, -, -, hNone⟩ := hKept
    rw [hGet] at hNone
    cases hNone
  · rcases hKept with ⟨-, body, -, -, hNone⟩ | ⟨hNot, hSame, -⟩
    · rw [hGet] at hNone
      cases hNone
    · rw [hGet, Option.some.injEq] at hSame
      rw [hSame, Option.eq_none_iff_forall_ne_some]
      exact fun body hBody => hNot ⟨hLive, body, revive?_eq_some_iff.1 hBody⟩

section Retention

variable {enumerate : Enumerator} {disk : Disk} {settings : Settings} {tree : Tree}
  {stubs : List Stub} {recovered again : Recovered} {key declaration : String}

/-- A declaration is lost if its function is asked for: the stub that was rendered for it is read
as the function, with the body that does nothing yet. -/
theorem Reread.lost_of_isLive (h : Reread enumerate disk settings tree stubs recovered)
    (hKeyed : tree.FieldsKeyed) (hBodies : recovered.bodies.get? key = none)
    (hLive : (Signature.classify key tree).isLive tree = true) (hStub : ∃ s ∈ stubs, s.key = key)
    (hLoad : load enumerate disk settings.resolverDir settings.resolverFiles tree = .ok again) :
    again.deprecated.get? key = none
      ∧ ∃ s ∈ stubs, s.key = key ∧ again.bodies.get? key = some s.defaultBody := by
  obtain ⟨s, hs, rfl⟩ := hStub
  obtain ⟨last, hLast, hKey, hBody, hNone⟩ := h.exists_body_of_load hKeyed hs hLive hLoad
  refine ⟨hNone, last, hLast, hKey, ?_⟩
  rw [hBody, Stub.body, hKey, hBodies, Option.getD_none]

theorem Reread.not_survives_of_isLive (h : Reread enumerate disk settings tree stubs recovered)
    (hKeyed : tree.FieldsKeyed) (hBodies : recovered.bodies.get? key = none)
    (hLive : (Signature.classify key tree).isLive tree = true) (hStub : ∃ s ∈ stubs, s.key = key)
    (hRevive : revive? enumerate settings.resolverDir key declaration = none)
    (hLoad : load enumerate disk settings.resolverDir settings.resolverFiles tree = .ok again) :
    ¬Survives enumerate settings.resolverDir again key declaration := by
  obtain ⟨hNone, -⟩ := h.lost_of_isLive hKeyed hBodies hLive hStub hLoad
  rintro (hSame | ⟨body, hRevived, -⟩)
  · rw [hNone] at hSame
    cases hSame
  · rw [hRevive] at hRevived
    cases hRevived

/-- A declaration that has no stub is settled, for any tree, as the last block of its key says. -/
theorem Listed.settles_of_retainedRead (h : Listed enumerate disk settings tree stubs recovered)
    {new : Tree} (hKeyed : new.FieldsKeyed)
    (hBlock : (retainedRead disk settings.resolverDir settings.resolverFiles).get? key
      = some declaration)
    (hApart : ∀ s ∈ stubs, s.key ≠ key)
    (hLoad : load enumerate disk settings.resolverDir settings.resolverFiles new = .ok again) :
    Settles enumerate settings.resolverDir new again key declaration := by
  refine Recovery.settles_of_retainedRead hKeyed hLoad hBlock ?_
  intro decl hDecl hName
  obtain ⟨s, hs, hKey⟩ := h.exists_stub_of_mem_functionsRead hDecl
  exact hApart s hs (hKey.trans hName)

/-- A block that reads back is found in the files, whatever else they show. -/
theorem Listed.mem_blocksRead_of_readBack
    (h : Listed enumerate disk settings tree stubs recovered)
    (hGet : recovered.deprecated.get? key = some declaration)
    (hReadBack : RetainedBlock.scan (RetainedBlock.render key declaration) = [⟨key, declaration⟩]) :
    ⟨key, declaration⟩ ∈ blocksRead disk settings.resolverDir settings.resolverFiles := by
  have hEntry : (key, declaration)
      ∈ ResolverFile.retained tree recovered (Signature.classify key tree).kind :=
    ResolverFile.mem_retained_iff.2 ⟨hGet, rfl⟩
  apply h.mem_blocksRead (Signature.classify key tree).kind
  rw [ResolverFile.scan_render, ResolverFile.blocks_ofKind]
  refine List.mem_append_right _ (List.mem_flatMap.2 ⟨_, List.mem_map.2 ⟨_, hEntry, rfl⟩, ?_⟩)
  rw [hReadBack]
  exact List.mem_singleton_self _

theorem exists_get?_retainedRead {dir : String} {files : List String} {block : RetainedBlock}
    (h : block ∈ blocksRead disk dir files) :
    ∃ text, (retainedRead disk dir files).get? block.key = some text := by
  obtain ⟨before, last, after, hSplit, hKey, hLast⟩ :=
    exists_last (p := fun other : RetainedBlock => other.key = block.key) ⟨_, h, rfl⟩
  rw [← hKey] at hLast ⊢
  exact ⟨_, get?_retainedRead_last hSplit hLast⟩

/-- A declaration that nothing asks for survives if its block is the last one of its key. -/
theorem Listed.survives_iff_get?_retainedRead
    (h : Listed enumerate disk settings tree stubs recovered) (hKeyed : tree.FieldsKeyed)
    (hDead : (Signature.classify key tree).isLive tree = false) (hApart : ∀ s ∈ stubs, s.key ≠ key)
    (hBlock : ⟨key, declaration⟩ ∈ blocksRead disk settings.resolverDir settings.resolverFiles)
    (hLoad : load enumerate disk settings.resolverDir settings.resolverFiles tree = .ok again) :
    Survives enumerate settings.resolverDir again key declaration ↔
      (retainedRead disk settings.resolverDir settings.resolverFiles).get? key
        = some declaration := by
  -- some block of the key is the last one, and its text is what is retained
  obtain ⟨text, hText⟩ := exists_get?_retainedRead hBlock
  obtain ⟨hDeprecated, hNone⟩ :=
    (h.settles_of_retainedRead hKeyed hText hApart hLoad).of_dead (by simp [hDead])
  rw [Survives, hDeprecated, hNone, hText]
  simp

end Retention

/-- **When a retained declaration survives the next run.**  It does if and only if no stub has its
key and its block is the last one of its key that the files show; the latter is so where they show no
other block of this key.  A declaration with a stub is lost, and the body that does nothing yet
stands for it.  The name of the empty middleware, which has a stub and is not asked for, is left
out. -/
theorem survives_iff {enumerate : Enumerator} {disk rendered : Disk} {settings : Settings}
    {bound : Tree} {stubs : List Stub} {recovered again : Recovered} {key declaration : String}
    (hBound : bound.IsBound) (hStubs : Stub.all bound = .ok stubs)
    (hLoad : load enumerate disk settings.resolverDir settings.resolverFiles bound = .ok recovered)
    (hReread : Reread enumerate rendered settings bound stubs recovered)
    (hAgain : load enumerate rendered settings.resolverDir settings.resolverFiles bound = .ok again)
    (hGet : recovered.deprecated.get? key = some declaration)
    (hReadBack : RetainedBlock.scan (RetainedBlock.render key declaration) = [⟨key, declaration⟩])
    (hName : ¬(key = "Middleware_" ∧ bound.middleware.contains "" = true)) :
    (Survives enumerate settings.resolverDir again key declaration ↔
      (∀ s ∈ stubs, s.key ≠ key)
        ∧ (retainedRead rendered settings.resolverDir settings.resolverFiles).get? key
          = some declaration)
    ∧ ((∀ block ∈ blocksRead rendered settings.resolverDir settings.resolverFiles,
          block.key = key → block.declaration = declaration) →
        (retainedRead rendered settings.resolverDir settings.resolverFiles).get? key
          = some declaration)
    ∧ ((∃ s ∈ stubs, s.key = key) → again.deprecated.get? key = none
        ∧ ∃ s ∈ stubs, s.key = key ∧ again.bodies.get? key = some s.defaultBody) := by
  obtain ⟨doc, hNamed, hDrawn, -⟩ := hBound.exists_document
  have hKeyed := hDrawn.fieldsKeyed
  have hBlock := hReread.listed.mem_blocksRead_of_readBack hGet hReadBack
  have hBodies : recovered.bodies.get? key = none := by
    rcases exclusive_of_load hKeyed hLoad key with hNone | hNone
    · exact hNone
    · rw [hGet] at hNone
      cases hNone
  have hLive := Stub.isLive_iff_of_ne hNamed hDrawn hStubs hName
  refine ⟨?_, get?_retainedRead_of_mem hBlock, fun hStub =>
    hReread.lost_of_isLive hKeyed hBodies (hLive.2 hStub) hStub hAgain⟩
  by_cases hStub : ∃ s ∈ stubs, s.key = key
  · -- the first recovery retained it although it was asked for, so it is no function
    have hRevive := revive?_eq_none_of_load hKeyed hLoad (hLive.2 hStub) hGet
    have hLost := hReread.not_survives_of_isLive hKeyed hBodies (hLive.2 hStub) hStub hRevive hAgain
    obtain ⟨s, hs, hKey⟩ := hStub
    exact iff_of_false hLost fun hLast => hLast.1 s hs hKey
  · have hApart : ∀ s ∈ stubs, s.key ≠ key := fun s hs hKey => hStub ⟨s, hs, hKey⟩
    have hDead : (Signature.classify key bound).isLive bound = false := by
      rw [← Bool.not_eq_true, hLive]
      exact hStub
    rw [hReread.listed.survives_iff_get?_retainedRead hKeyed hDead hApart hBlock hAgain]
    exact (and_iff_right hApart).symm

end Recovery

/-! ### A block that cannot be read as its function -/

namespace Sample

/-- A file with two blocks: one of the query, whose text is no function, and another. -/
def unrevivedText : String :=
  "// lambdagen:deprecated Query_a\n// x\n// lambdagen:end\n// lambdagen:deprecated f\n// y\n// lambdagen:end\n"

def unrevivedDisk : Disk :=
  dir.put ["r"] "query_resolver.rs" (.text unrevivedText) node?_dir (.inr nofun)

def unrevived : Recovered := ⟨.empty, (Dict.empty.insert "Query_a" "x").insert "f" "y"⟩

/-- Lists the functions of that file, of the files rendered from it, and of the block. -/
def enumerateUnrevived : Enumerator := fun path text =>
  if path = "r/Query_a.deprecated" then .error (.malformed path)
  else .ok (if path = "r/query_resolver.rs" ∧ text ≠ unrevivedText then
    [stubDecl settings unrevived path] else [])

theorem load_unrevived : Recovery.load enumerateUnrevived unrevivedDisk settings.resolverDir
    settings.resolverFiles tree = .ok unrevived := by
  have hFiles : Recovery.filesRead unrevivedDisk settings.resolverDir settings.resolverFiles
      = ["r/query_resolver.rs"] := (rfl)
  have hText : unrevivedDisk.readText "r/query_resolver.rs" = .ok unrevivedText := (rfl)
  have hScan : RetainedBlock.scan unrevivedText = [⟨"Query_a", "x"⟩, ⟨"f", "y"⟩] := by decide
  have hList : enumerateUnrevived "r/query_resolver.rs" unrevivedText = .ok [] := by
    simp [enumerateUnrevived]
  have hKeyed : tree.FieldsKeyed := fun _ _ h => nomatch h
  rw [Recovery.load_of_functionsRead_eq_nil hKeyed, Recovery.retainedRead, Recovery.blocksRead,
    hFiles, List.flatMap_singleton]
  · simp only [Recovery.blocksIn, hText, hScan]
    rfl
  · rw [hFiles]
    rintro file hFile
    rw [List.mem_singleton.1 hFile]
    exact ⟨_, _, hText, hList⟩
  · rw [Recovery.functionsRead, hFiles, List.flatMap_singleton]
    simp only [Recovery.functionsIn, hText, hList]

theorem rendered_ne_unrevivedText (settings : Settings) (kept : Recovered)
    (kind : ResolverKind) : rendered settings kept kind ≠ unrevivedText := by
  intro hSame
  -- a rendered file starts with its first line, the other text with a block
  have hChar : (rendered settings kept kind).toList[3]? = some 'C' := by
    rw [rendered, ResolverFile.render, ResolverFile.lines, ResolverFile.headLines,
      List.cons_append, List.cons_append, Text.ofLines_cons, String.append_assoc,
      String.toList_append, List.getElem?_append_left (by decide)]
    decide
  rw [hSame] at hChar
  exact absurd hChar (by decide)

def unrevivedAgain : Disk := resolverDisk (rendered settings unrevived)

theorem reread_unrevived :
    Recovery.Reread enumerateUnrevived unrevivedAgain settings tree [stub] unrevived where
  dir := rfl
  file kind := by cases kind <;> rfl
  lists kind := by
    refine ⟨fun _ => (stubDecl settings unrevived (settings.resolverFile kind)).declaration,
      fun _ => (stubDecl settings unrevived (settings.resolverFile kind)).body, ?_, ?_⟩
    · have hNe := rendered_ne_unrevivedText settings unrevived kind
      show enumerateUnrevived _ (rendered settings unrevived kind) = _
      rw [enumerateUnrevived]
      cases kind <;> simp [hNe] <;> rfl
    · intro s hs hKind
      obtain rfl := List.mem_singleton.1 hs
      subst hKind
      exact bodyAt_stubDecl settings unrevived _

theorem isLive_stub : (Signature.classify stub.key tree).isLive tree = true := rfl

theorem exists_load_unrevivedAgain : ∃ again, Recovery.load enumerateUnrevived unrevivedAgain
    settings.resolverDir settings.resolverFiles tree = .ok again := by
  refine reread_unrevived.exists_load fun s hs => ?_
  rw [List.mem_singleton.1 hs]
  exact isLive_stub

theorem readBack_unrevived {key declaration : String}
    (h : unrevived.deprecated.get? key = some declaration) :
    RetainedBlock.scan (RetainedBlock.render key declaration) = [⟨key, declaration⟩] :=
  Recovered.readBack_of_entries (by decide) h

theorem unmarked_stub {kept : Recovered} (hBody : Unmarked (stub.body kept)) :
    ∀ s ∈ [stub], (∀ doc ∈ s.docs, Unmarked doc) ∧ Unmarked (s.code kept) := by
  intro s hs
  refine ⟨?_, Stub.unmarked_code all_tree hs ?_ ?_⟩ <;> rw [List.mem_singleton.1 hs]
  · exact fun doc h => (List.not_mem_nil h).elim
  · exact unmarked_of_notMem (c := 'g') (by decide) (by decide)
  · exact hBody

theorem scan_unrevivedAgain (kind : ResolverKind) :
    RetainedBlock.scan (ResolverFile.ofKind settings tree [stub] unrevived kind).render
      = (ResolverFile.retained tree unrevived kind).map fun e => ⟨e.1, e.2⟩ := by
  have hPlain : ∀ text : String, 'g' ∉ text.toList → Unmarked text :=
    fun text => unmarked_of_notMem (c := 'g') (by decide)
  exact ResolverFile.scan_ofKind_of_unmarked (hPlain _ (by decide))
    (unmarked_stub (hPlain _ (by decide))) (fun _ _ => readBack_unrevived) kind

end Sample

namespace Recovery

/-- The other block has no stub, and it is still there after the next run. -/
theorem survives_of_unrevived :
    ∃ again, load Sample.enumerateUnrevived Sample.unrevivedAgain Sample.settings.resolverDir
        Sample.settings.resolverFiles Sample.tree = .ok again
      ∧ Survives Sample.enumerateUnrevived Sample.settings.resolverDir again "f" "y" := by
  obtain ⟨again, hAgain⟩ := Sample.exists_load_unrevivedAgain
  have hGet : Sample.unrevived.deprecated.get? "f" = some "y" := rfl
  obtain ⟨hSurvives, hLast, -⟩ := survives_iff Sample.isBound_tree Sample.all_tree
    Sample.load_unrevived Sample.reread_unrevived hAgain hGet (Sample.readBack_unrevived hGet)
    (by decide)
  refine ⟨again, hAgain, hSurvives.2 ⟨by decide, hLast ?_⟩⟩
  intro block hBlock hKey
  have hRead := (Sample.reread_unrevived.listed.mem_blocksRead_iff Sample.scan_unrevivedAgain).1
    hBlock
  rw [hKey, hGet] at hRead
  exact (Option.some.inj hRead).symm

/-- **A retained declaration can be lost by the next run.**  The block of the query is no function,
so it is retained although the query is asked for; the stub that is rendered beside it takes its place
in the next recovery. -/
theorem retained_is_lost :
    Sample.tree.IsBound ∧ Stub.all Sample.tree = .ok [Sample.stub]
    ∧ load Sample.enumerateUnrevived Sample.unrevivedDisk Sample.settings.resolverDir
        Sample.settings.resolverFiles Sample.tree = .ok Sample.unrevived
    ∧ Reread Sample.enumerateUnrevived Sample.unrevivedAgain Sample.settings Sample.tree
        [Sample.stub] Sample.unrevived
    ∧ Sample.unrevived.deprecated.get? "Query_a" = some "x"
    ∧ RetainedBlock.scan (RetainedBlock.render "Query_a" "x") = [⟨"Query_a", "x"⟩]
    ∧ ∃ again, load Sample.enumerateUnrevived Sample.unrevivedAgain Sample.settings.resolverDir
        Sample.settings.resolverFiles Sample.tree = .ok again
      ∧ again.bodies.get? "Query_a" = some Sample.stub.defaultBody
      ∧ ¬Survives Sample.enumerateUnrevived Sample.settings.resolverDir again "Query_a" "x" := by
  obtain ⟨again, hAgain⟩ := Sample.exists_load_unrevivedAgain
  have hKeyed : Sample.tree.FieldsKeyed := fun _ _ h => nomatch h
  have hBodies : Sample.unrevived.bodies.get? "Query_a" = none := rfl
  have hStub : ∃ s ∈ [Sample.stub], s.key = "Query_a" := ⟨_, List.mem_cons_self, rfl⟩
  obtain ⟨-, s, hs, -, hBody⟩ :=
    Sample.reread_unrevived.lost_of_isLive hKeyed hBodies Sample.isLive_stub hStub hAgain
  rw [List.mem_singleton.1 hs] at hBody
  exact ⟨Sample.isBound_tree, Sample.all_tree, Sample.load_unrevived, Sample.reread_unrevived, rfl,
    Sample.readBack_unrevived rfl, again, hAgain, hBody, Sample.reread_unrevived.not_survives_of_isLive
      hKeyed hBodies Sample.isLive_stub hStub rfl hAgain⟩

end Recovery

end ResolverScaffold
