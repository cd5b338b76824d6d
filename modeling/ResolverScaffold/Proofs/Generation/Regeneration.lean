import ResolverScaffold.Proofs.Generation.Preservation

/-!
# Regeneration

The resolver files that were rendered are read again, and rendered again.

* `Listed`: the rendered files stand on a disk, and the enumerator lists the names
  of the stubs of each.  `Reread`: it also says where their bodies are.  The
  enumerator is not ours, so this is all that is asked of it.
* `exists_of_mem_functionsRead`, `exists_mem_functionsRead`, `mem_blocksRead_iff`:
  the functions that are read are the stubs, and the blocks that are read are the
  declarations.
* `exists_load`: the files can be read.
* `regeneration_is_fixedPoint`: what is recovered from the files is what they
  were rendered from, so that they are rendered the same.
-/

namespace ResolverScaffold

namespace Recovery

/-! ### Rendered files on a disk -/

/-- The body of a stub stands at a span: between the head of the stub and its closing brace. -/
def BodyAt (path text : String) (s : Stub) (body : String) (span : Span) : Prop :=
  ∃ before after, text = before ++ s.header ++ body ++ "\x7d" ++ after
    ∧ span = .within path (Text.byteLength (before ++ s.header).toList)
      (Text.byteLength (before ++ s.header ++ body).toList)

/-- The resolver files of a tree as they were rendered, read with an enumerator that lists the
stubs of each file in order. -/
structure Reread (enumerate : Enumerator) (disk : Disk) (settings : Settings) (tree : Tree)
    (stubs : List Stub) (recovered : Recovered) : Prop where
  dir : disk.exists? settings.resolverDir = true
  file : ∀ kind, disk.readText (settings.resolverFile kind)
    = .ok (ResolverFile.ofKind settings tree stubs recovered kind).render
  lists : ∀ kind, ∃ declaration body : Stub → Span,
    enumerate (settings.resolverFile kind)
        (ResolverFile.ofKind settings tree stubs recovered kind).render
      = .ok ((stubs.filter (·.kind == kind)).map fun s => ⟨s.key, declaration s, body s⟩)
    ∧ ∀ s ∈ stubs, s.kind = kind → BodyAt (settings.resolverFile kind)
      (ResolverFile.ofKind settings tree stubs recovered kind).render s (s.body recovered) (body s)

/-- The resolver files of a tree as they were rendered, read with an enumerator that lists the
names of the stubs of each file in order. -/
structure Listed (enumerate : Enumerator) (disk : Disk) (settings : Settings) (tree : Tree)
    (stubs : List Stub) (recovered : Recovered) : Prop where
  dir : disk.exists? settings.resolverDir = true
  file : ∀ kind, disk.readText (settings.resolverFile kind)
    = .ok (ResolverFile.ofKind settings tree stubs recovered kind).render
  lists : ∀ kind, ∃ decls, enumerate (settings.resolverFile kind)
      (ResolverFile.ofKind settings tree stubs recovered kind).render = .ok decls
    ∧ decls.map (·.name) = (stubs.filter (·.kind == kind)).map (·.key)

section Listed

variable {enumerate : Enumerator} {disk : Disk} {settings : Settings} {tree : Tree}
  {stubs : List Stub} {recovered : Recovered}

theorem Reread.listed (h : Reread enumerate disk settings tree stubs recovered) :
    Listed enumerate disk settings tree stubs recovered where
  dir := h.dir
  file := h.file
  lists kind := by
    obtain ⟨declaration, body, hList, -⟩ := h.lists kind
    exact ⟨_, hList, by rw [List.map_map]; rfl⟩

theorem Listed.mem_filesRead (h : Listed enumerate disk settings tree stubs recovered)
    {file : String} : file ∈ filesRead disk settings.resolverDir settings.resolverFiles ↔
      ∃ kind, settings.resolverFile kind = file := by
  rw [filesRead, if_pos h.dir, List.mem_filter]
  constructor
  · rintro ⟨hFile, -⟩
    obtain ⟨kind, -, hKind⟩ := List.mem_map.1 hFile
    exact ⟨kind, hKind⟩
  · rintro ⟨kind, rfl⟩
    refine ⟨List.mem_map.2 ⟨kind, ?_, rfl⟩, Disk.exists?_of_readText (h.file kind)⟩
    cases kind <;> decide

/-- Every function that is read has the name of a stub. -/
theorem Listed.exists_stub_of_mem_functionsRead
    (h : Listed enumerate disk settings tree stubs recovered) {decl : FunctionDecl}
    (hDecl : decl ∈ functionsRead enumerate disk settings.resolverDir settings.resolverFiles) :
    ∃ s ∈ stubs, s.key = decl.name := by
  obtain ⟨file, hFile, hDecl⟩ := List.mem_flatMap.1 hDecl
  obtain ⟨kind, rfl⟩ := h.mem_filesRead.1 hFile
  obtain ⟨decls, hList, hNames⟩ := h.lists kind
  simp only [functionsIn, h.file kind, hList] at hDecl
  have hName : decl.name ∈ (stubs.filter (·.kind == kind)).map (·.key) := by
    rw [← hNames]
    exact List.mem_map.2 ⟨decl, hDecl, rfl⟩
  obtain ⟨s, hs, hKey⟩ := List.mem_map.1 hName
  exact ⟨s, (List.mem_filter.1 hs).1, hKey⟩

/-- A block that is found in a file is read. -/
theorem Listed.mem_blocksRead (h : Listed enumerate disk settings tree stubs recovered)
    (kind : ResolverKind) {block : RetainedBlock} (hBlock : block ∈ RetainedBlock.scan
      (ResolverFile.ofKind settings tree stubs recovered kind).render) :
    block ∈ blocksRead disk settings.resolverDir settings.resolverFiles := by
  refine List.mem_flatMap.2 ⟨settings.resolverFile kind, h.mem_filesRead.2 ⟨kind, rfl⟩, ?_⟩
  simp only [blocksIn, h.file]
  exact hBlock

/-- The blocks that are read are the declarations, if every file gives back what it retains. -/
theorem Listed.mem_blocksRead_iff (h : Listed enumerate disk settings tree stubs recovered)
    (hScan : ∀ kind, RetainedBlock.scan (ResolverFile.ofKind settings tree stubs recovered
      kind).render = (ResolverFile.retained tree recovered kind).map fun e => ⟨e.1, e.2⟩)
    {block : RetainedBlock} :
    block ∈ blocksRead disk settings.resolverDir settings.resolverFiles ↔
      recovered.deprecated.get? block.key = some block.declaration := by
  constructor
  · intro hBlock
    obtain ⟨file, hFile, hBlock⟩ := List.mem_flatMap.1 hBlock
    obtain ⟨kind, rfl⟩ := h.mem_filesRead.1 hFile
    simp only [blocksIn, h.file kind, hScan kind] at hBlock
    obtain ⟨e, he, rfl⟩ := List.mem_map.1 hBlock
    exact (ResolverFile.mem_retained_iff.1 he).1
  · intro hGet
    apply h.mem_blocksRead (Signature.classify block.key tree).kind
    rw [hScan]
    exact List.mem_map.2 ⟨(block.key, block.declaration),
      ResolverFile.mem_retained_iff.2 ⟨hGet, rfl⟩, rfl⟩

/-- The files can be read for a tree, if what it wants of each function can be read. -/
theorem Listed.exists_load (h : Listed enumerate disk settings tree stubs recovered) {new : Tree}
    (hWanted : ∀ decl ∈ functionsRead enumerate disk settings.resolverDir settings.resolverFiles,
      ∃ text part, disk.readText (wanted new decl).start.file = .ok text
        ∧ (wanted new decl).Cuts disk part) :
    ∃ again, load enumerate disk settings.resolverDir settings.resolverFiles new = .ok again := by
  refine Recovery.exists_load (fun file hFile => ?_) hWanted
  obtain ⟨kind, rfl⟩ := h.mem_filesRead.1 hFile
  obtain ⟨decls, hList, -⟩ := h.lists kind
  exact ⟨_, _, h.file kind, hList⟩

/-- Every declaration is kept as it was, if every file gives back what it retains. -/
theorem Listed.get?_retainedRead (h : Listed enumerate disk settings tree stubs recovered)
    (hScan : ∀ kind, RetainedBlock.scan (ResolverFile.ofKind settings tree stubs recovered
      kind).render = (ResolverFile.retained tree recovered kind).map fun e => ⟨e.1, e.2⟩)
    {key declaration : String} (hGet : recovered.deprecated.get? key = some declaration) :
    (retainedRead disk settings.resolverDir settings.resolverFiles).get? key
      = some declaration := by
  refine get?_retainedRead_of_mem ((h.mem_blocksRead_iff hScan).2 hGet) ?_
  rintro block hBlock rfl
  have hSame := (h.mem_blocksRead_iff hScan).1 hBlock
  rw [hGet, Option.some.injEq] at hSame
  exact hSame.symm

end Listed

section Reread

variable {enumerate : Enumerator} {disk : Disk} {settings : Settings} {tree : Tree}
  {stubs : List Stub} {recovered : Recovered}

/-- The text of the span of a body is the body. -/
theorem BodyAt.cuts {path text body : String} {s : Stub} {span : Span}
    (h : BodyAt path text s body span) (hText : disk.readText path = .ok text) :
    disk.readText span.start.file = .ok text ∧ span.Cuts disk body := by
  obtain ⟨before, after, rfl, rfl⟩ := h
  have hSlice := Text.sliceOf?_append (before ++ s.header) body ("\x7d" ++ after)
  rw [← String.append_assoc] at hSlice
  exact ⟨hText, Span.cuts_within hText hSlice⟩

/-- Every function that is read is a stub, and its span has the body of the stub. -/
theorem Reread.exists_of_mem_functionsRead
    (h : Reread enumerate disk settings tree stubs recovered) {decl : FunctionDecl}
    (hDecl : decl ∈ functionsRead enumerate disk settings.resolverDir settings.resolverFiles) :
    ∃ s ∈ stubs, decl.name = s.key ∧ ∃ text, disk.readText decl.body.start.file = .ok text
      ∧ decl.body.Cuts disk (s.body recovered) := by
  obtain ⟨file, hFile, hDecl⟩ := List.mem_flatMap.1 hDecl
  obtain ⟨kind, rfl⟩ := h.listed.mem_filesRead.1 hFile
  obtain ⟨declaration, body, hList, hBody⟩ := h.lists kind
  simp only [functionsIn, h.file kind, hList] at hDecl
  obtain ⟨s, hs, rfl⟩ := List.mem_map.1 hDecl
  obtain ⟨hs, hKind⟩ := List.mem_filter.1 hs
  exact ⟨s, hs, rfl, _, (hBody s hs (by simpa using hKind)).cuts (h.file kind)⟩

/-- Every stub is read. -/
theorem Reread.exists_mem_functionsRead (h : Reread enumerate disk settings tree stubs recovered)
    {s : Stub} (hs : s ∈ stubs) :
    ∃ decl ∈ functionsRead enumerate disk settings.resolverDir settings.resolverFiles,
      decl.name = s.key := by
  obtain ⟨declaration, body, hList, -⟩ := h.lists s.kind
  refine ⟨⟨s.key, declaration s, body s⟩, List.mem_flatMap.2
    ⟨settings.resolverFile s.kind, h.listed.mem_filesRead.2 ⟨s.kind, rfl⟩, ?_⟩, rfl⟩
  simp only [functionsIn, h.file, hList]
  exact List.mem_map.2 ⟨s, List.mem_filter.2 ⟨hs, by simp⟩, rfl⟩

/-- **The files can be read**, if the key of every stub is asked for. -/
theorem Reread.exists_load (h : Reread enumerate disk settings tree stubs recovered)
    (hLive : ∀ s ∈ stubs, (Signature.classify s.key tree).isLive tree = true) :
    ∃ again, load enumerate disk settings.resolverDir settings.resolverFiles tree = .ok again := by
  refine h.listed.exists_load fun decl hDecl => ?_
  obtain ⟨s, hs, hName, text, hText, hCuts⟩ := h.exists_of_mem_functionsRead hDecl
  rw [wanted, hName, if_pos (hLive s hs)]
  exact ⟨text, _, hText, hCuts⟩

/-- The name of every stub gets the body back that the last stub of this name was rendered with. -/
theorem Reread.exists_body_of_load (h : Reread enumerate disk settings tree stubs recovered)
    (hKeyed : tree.FieldsKeyed) {s : Stub} (hs : s ∈ stubs)
    (hLive : (Signature.classify s.key tree).isLive tree = true) {again : Recovered}
    (hLoad : load enumerate disk settings.resolverDir settings.resolverFiles tree = .ok again) :
    ∃ last ∈ stubs, last.key = s.key ∧ again.bodies.get? s.key = some (last.body recovered)
      ∧ again.deprecated.get? s.key = none := by
  obtain ⟨before, decl, after, hSplit, hName, hLast⟩ := exists_last (h.exists_mem_functionsRead hs)
  have hMem : decl ∈ functionsRead enumerate disk settings.resolverDir settings.resolverFiles := by
    rw [hSplit]
    simp
  obtain ⟨last, hStub, hName', -, -, hCuts⟩ := h.exists_of_mem_functionsRead hMem
  have hKept := keeps_of_load hKeyed hLoad hSplit fun later hLater => hName ▸ hLast later hLater
  rw [Keeps, hName, if_pos hLive] at hKept
  obtain ⟨text, hText, hKept⟩ := hKept
  rw [hText.unique hCuts] at hKept
  exact ⟨last, hStub, hName'.symm.trans hName, hKept⟩

/-- Every stub gets the body back that it was rendered with, if no two stubs share a key. -/
theorem Reread.bodies_of_load (h : Reread enumerate disk settings tree stubs recovered)
    (hKeyed : tree.FieldsKeyed) (hDistinct : (stubs.map (·.key)).Nodup)
    (hLive : ∀ s ∈ stubs, (Signature.classify s.key tree).isLive tree = true) {again : Recovered}
    (hLoad : load enumerate disk settings.resolverDir settings.resolverFiles tree = .ok again)
    {s : Stub} (hs : s ∈ stubs) :
    again.bodies.get? s.key = some (s.body recovered) ∧ again.deprecated.get? s.key = none := by
  obtain ⟨last, hLast, hKey, hKept⟩ := h.exists_body_of_load hKeyed hs (hLive s hs) hLoad
  rwa [List.inj_on_of_nodup_map hDistinct hLast hs hKey] at hKept

/-- Every declaration is retained as it was, if none of them is the name of a stub and no name
other than those of the stubs is asked for. -/
theorem Reread.deprecated_of_load (h : Reread enumerate disk settings tree stubs recovered)
    (hKeyed : tree.FieldsKeyed) (hDistinct : (stubs.map (·.key)).Nodup)
    (hLive : ∀ key, (Signature.classify key tree).isLive tree = true ↔ ∃ s ∈ stubs, s.key = key)
    (hScan : ∀ kind, RetainedBlock.scan (ResolverFile.ofKind settings tree stubs recovered
      kind).render = (ResolverFile.retained tree recovered kind).map fun e => ⟨e.1, e.2⟩)
    (hApart : ∀ s ∈ stubs, recovered.deprecated.get? s.key = none) {again : Recovered}
    (hLoad : load enumerate disk settings.resolverDir settings.resolverFiles tree = .ok again) :
    again.deprecated = recovered.deprecated := by
  apply Dict.ext_get?
  intro key
  -- a key belongs to a stub, to a declaration or to neither
  by_cases hStub : ∃ s ∈ stubs, s.key = key
  · obtain ⟨s, hs, rfl⟩ := hStub
    have hLiveStub : ∀ s ∈ stubs, (Signature.classify s.key tree).isLive tree = true :=
      fun s hs => (hLive s.key).2 ⟨s, hs, rfl⟩
    rw [(h.bodies_of_load hKeyed hDistinct hLiveStub hLoad hs).2, hApart s hs]
  · have hNone : ∀ decl ∈ functionsRead enumerate disk settings.resolverDir settings.resolverFiles,
        decl.name ≠ key := by
      intro decl hDecl hName
      obtain ⟨s, hs, hKey, -⟩ := h.exists_of_mem_functionsRead hDecl
      exact hStub ⟨s, hs, hKey.symm.trans hName⟩
    cases hGet : recovered.deprecated.get? key with
    | none =>
      refine (contains_eq_false_iff.1 (contains_eq_false_of_load hKeyed hLoad hNone ?_)).2
      rintro block hBlock rfl
      rw [(h.listed.mem_blocksRead_iff hScan).1 hBlock] at hGet
      cases hGet
    | some declaration =>
      have hSettled := settles_of_retainedRead hKeyed hLoad (h.listed.get?_retainedRead hScan hGet)
        hNone
      exact (hSettled.of_dead fun hAsked => hStub ((hLive key).1 hAsked)).1

end Reread

/-! ### Rendering again -/

/-- **Regeneration is a fixed point.**  Resolver files that were rendered from a recovery are read
back, and what is recovered from them has the declarations of the first recovery and for every stub
the body that it was rendered with, so that all files are rendered the same. -/
theorem regeneration_is_fixedPoint {enumerate : Enumerator} {disk : Disk} {settings : Settings}
    {bound : Tree} {stubs : List Stub} {recovered : Recovered}
    (hBound : bound.IsBound) (hStubs : Stub.all bound = .ok stubs)
    (hDistinct : (stubs.map (·.key)).Nodup) (hMiddleware : bound.middleware.contains "" = false)
    (hApart : ∀ s ∈ stubs, recovered.deprecated.contains s.key = false)
    (hReadBack : ∀ key declaration, recovered.deprecated.get? key = some declaration →
      RetainedBlock.scan (RetainedBlock.render key declaration) = [⟨key, declaration⟩])
    (hUnmarked : ∀ s ∈ stubs,
      (∀ doc ∈ s.docs, Unmarked doc) ∧ Unmarked s.header ∧ Unmarked (s.body recovered))
    (hExec : Unmarked settings.execFileModule)
    (hReread : Reread enumerate disk settings bound stubs recovered) :
    ∃ again, load enumerate disk settings.resolverDir settings.resolverFiles bound = .ok again
      ∧ again.deprecated = recovered.deprecated
      ∧ (∀ s ∈ stubs, again.bodies.get? s.key = some (s.body recovered))
      ∧ (∀ key, again.bodies.contains key = true → ∃ s ∈ stubs, s.key = key)
      ∧ (∃ model rest, GeneratedFile.renderAll settings bound recovered = .ok (model
        :: ResolverKind.all.map (GeneratedFile.ofResolvers settings bound stubs recovered) ++ rest))
      ∧ GeneratedFile.renderAll settings bound again
        = GeneratedFile.renderAll settings bound recovered := by
  obtain ⟨doc, hNamed, hDrawn, hDecided⟩ := hBound.exists_document
  have hKeyed := hDrawn.fieldsKeyed
  have hLive : ∀ key,
      (Signature.classify key bound).isLive bound = true ↔ ∃ s ∈ stubs, s.key = key := by
    refine fun key => ⟨Stub.exists_stub_of_isLive hDrawn hStubs, ?_⟩
    rintro ⟨s, hs, rfl⟩
    exact Stub.isLive_of_mem_all hNamed hDrawn hMiddleware hStubs hs
  have hLiveStub : ∀ s ∈ stubs, (Signature.classify s.key bound).isLive bound = true :=
    fun s hs => (hLive s.key).2 ⟨s, hs, rfl⟩
  have hScan := ResolverFile.scan_ofKind hStubs hExec hUnmarked hReadBack
  obtain ⟨again, hLoad⟩ := hReread.exists_load hLiveStub
  have hDeprecated := hReread.deprecated_of_load hKeyed hDistinct hLive hScan
    (fun s hs => (Dict.contains_eq_false_iff _).1 (hApart s hs)) hLoad
  have hBodies : ∀ s ∈ stubs, again.bodies.get? s.key = some (s.body recovered) :=
    fun s hs => (hReread.bodies_of_load hKeyed hDistinct hLiveStub hLoad hs).1
  obtain ⟨model, rest, hRender⟩ := exists_renderAll hDrawn hDecided settings hStubs
  refine ⟨again, hLoad, hDeprecated, hBodies, fun key hKey => ?_, ⟨model, rest, hRender _⟩, ?_⟩
  · obtain ⟨body, hGet⟩ := (Dict.contains_eq_true_iff _).1 hKey
    exact exists_stub_of_load hDrawn hStubs hLoad hGet
  · have hBody : ∀ s ∈ stubs, s.body again = s.body recovered := by
      intro s hs
      rw [Stub.body, hBodies s hs, Option.getD_some]
    have hSame : GeneratedFile.ofResolvers settings bound stubs again
        = GeneratedFile.ofResolvers settings bound stubs recovered := by
      funext kind
      rw [GeneratedFile.ofResolvers, ResolverFile.ofKind_congr hBody hDeprecated,
        GeneratedFile.ofResolvers]
    rw [hRender again, hRender recovered, hSame]

end Recovery

/-- Every declaration reads back, if all entries do. -/
theorem Recovered.readBack_of_entries {recovered : Recovered}
    (h : ∀ e ∈ recovered.deprecated.entries,
      RetainedBlock.scan (RetainedBlock.render e.1 e.2) = [⟨e.1, e.2⟩])
    {key declaration : String} (hGet : recovered.deprecated.get? key = some declaration) :
    RetainedBlock.scan (RetainedBlock.render key declaration) = [⟨key, declaration⟩] :=
  h (key, declaration) ((Dict.get?_eq_some_iff_mem _).1 hGet)

/-! ### The small project again -/

namespace Sample

def stub : Stub :=
  { key := "Query_a", kind := .query, docs := [],
    header := Stub.head "Query_a" "auth_header: &AuthHeader" "Option<i64>",
    defaultBody := Stub.unimplementedBody "Query_a" }

theorem all_tree : Stub.all tree = .ok [stub] := rfl

def resolverDisk (text : ResolverKind → String) : Disk :=
  let dir := dir.put ["r"] "query_resolver.rs" (.text (text .query)) node?_dir (.inr nofun)
  let dir := dir.put ["r"] "mutation_resolver.rs" (.text (text .mutation)) rfl (.inr nofun)
  let dir := dir.put ["r"] "field_resolver.rs" (.text (text .field)) rfl (.inr nofun)
  let dir := dir.put ["r"] "middleware_resolver.rs" (.text (text .middleware)) rfl (.inr nofun)
  dir.put ["r"] "webhook_resolver.rs" (.text (text .webhook)) rfl (.inr nofun)

/-- The text of a resolver file with the query of the small project. -/
def rendered (settings : Settings) (kept : Recovered) (kind : ResolverKind) : String :=
  (ResolverFile.ofKind settings tree [stub] kept kind).render

def front (settings : Settings) : String :=
  Text.ofLines (ResolverFile.headLines settings.execFileModule ++ [""])

theorem rendered_query (settings : Settings) (kept : Recovered) :
    ∃ after, rendered settings kept .query = front settings ++ stub.code kept ++ after := by
  have hLines : (ResolverFile.ofKind settings tree [stub] kept .query).lines
      = (ResolverFile.headLines settings.execFileModule ++ [""]) ++ stub.code kept
        :: (ResolverFile.ofKind settings tree [stub] kept .query).blocks.flatMap
          fun block => ["", block] := by
    simp [ResolverFile.lines, ResolverFile.ofKind, ResolverFile.stubLines, stub]
  rw [rendered, ResolverFile.render, hLines, Text.ofLines_append, Text.ofLines_cons, front,
    String.append_assoc, ← String.append_assoc]
  exact ⟨_, rfl⟩

def stubDecl (settings : Settings) (kept : Recovered) (path : String) : FunctionDecl :=
  { name := stub.key
    declaration := .within path (Text.byteLength (front settings).toList)
      (Text.byteLength (front settings ++ stub.code kept).toList)
    body := .within path (Text.byteLength (front settings ++ stub.header).toList)
      (Text.byteLength (front settings ++ stub.header ++ stub.body kept).toList) }

theorem bodyAt_stubDecl (settings : Settings) (kept : Recovered) (path : String) :
    Recovery.BodyAt path (rendered settings kept .query) stub (stub.body kept)
      (stubDecl settings kept path).body := by
  obtain ⟨after, hText⟩ := rendered_query settings kept
  refine ⟨front settings, after, ?_, rfl⟩
  rw [hText, Stub.code]
  simp only [String.append_assoc]

/-- Lists the functions of the resolver files. -/
def enumerateRendered : Enumerator := fun path _ =>
  .ok (if path = "r/query_resolver.rs" then [stubDecl settings recovered path] else [])

def renderedDisk : Disk := resolverDisk (rendered settings recovered)

theorem reread : Recovery.Reread enumerateRendered renderedDisk settings tree [stub] recovered where
  dir := rfl
  file kind := by cases kind <;> rfl
  lists kind := by
    refine ⟨fun _ => (stubDecl settings recovered (settings.resolverFile kind)).declaration,
      fun _ => (stubDecl settings recovered (settings.resolverFile kind)).body,
      by cases kind <;> rfl, ?_⟩
    intro s hs hKind
    obtain rfl := List.mem_singleton.1 hs
    subst hKind
    exact bodyAt_stubDecl settings recovered _

theorem scan_render_of_get? {key declaration : String}
    (h : recovered.deprecated.get? key = some declaration) :
    RetainedBlock.scan (RetainedBlock.render key declaration) = [⟨key, declaration⟩] :=
  Recovered.readBack_of_entries (by decide) h

end Sample

/-- The small project is generated again without a change. -/
theorem Recovery.regeneration_of_sample :
    ∃ again, load Sample.enumerateRendered Sample.renderedDisk Sample.settings.resolverDir
        Sample.settings.resolverFiles Sample.tree = .ok again
      ∧ again.deprecated = Sample.recovered.deprecated
      ∧ again.bodies.get? "Query_a" = some "1"
      ∧ GeneratedFile.renderAll Sample.settings Sample.tree again
        = GeneratedFile.renderAll Sample.settings Sample.tree Sample.recovered := by
  have hPlain : ∀ text : String, 'g' ∉ text.toList → Unmarked text :=
    fun text => unmarked_of_notMem (c := 'g') (by decide)
  have hUnmarked : ∀ s ∈ [Sample.stub], (∀ doc ∈ s.docs, Unmarked doc) ∧ Unmarked s.header
      ∧ Unmarked (s.body Sample.recovered) := by
    intro s hs
    obtain rfl := List.mem_singleton.1 hs
    exact ⟨fun doc h => (List.not_mem_nil h).elim, hPlain _ (by decide), hPlain _ (by decide)⟩
  obtain ⟨again, hLoad, hDeprecated, hBodies, -, -, hSame⟩ := regeneration_is_fixedPoint
    Sample.isBound_tree Sample.all_tree (by decide) rfl (by decide)
    (fun _ _ => Sample.scan_render_of_get?) hUnmarked (hPlain _ (by decide)) Sample.reread
  exact ⟨again, hLoad, hDeprecated, hBodies Sample.stub List.mem_cons_self, hSame⟩

end ResolverScaffold
