import Mathlib
import ResolverScaffold.Proofs.Autobind
import ResolverScaffold.Proofs.Render.ResolverFile
import ResolverScaffold.Proofs.Render.Total
import ResolverScaffold.Proofs.Resolver.Recovery
import ResolverScaffold.Proofs.Schema.Load

/-!
# Nothing recovered is dropped

What was recovered goes back into the resolver files: a body into its function,
and a declaration that is no longer asked for into the blocks of one file.

* `exists_stub_of_load`: every recovered body has a stub.
* `notMem_of_load`: the keys that were recovered are on one line, if the names of
  the functions are.
* `load_is_rendered`: every body and every declaration is in its file.
* `block_in_two_files`: a block does not show its file, if a name has several lines.
-/

namespace ResolverScaffold

theorem GeneratedFile.contents_ofResolvers (settings : Settings) (tree : Tree) (stubs : List Stub)
    (recovered : Recovered) (kind : ResolverKind) :
    (ofResolvers settings tree stubs recovered kind).contents
      = (ResolverFile.ofKind settings tree stubs recovered kind).render := by
  rw [ofResolvers]

namespace Recovery

section Rendered

variable {enumerate : Enumerator} {disk : Disk} {dir : String} {files : List String}
  {bound : Tree} {recovered : Recovered} {stubs : List Stub}

/-- Every recovered body has a stub. -/
theorem exists_stub_of_load {doc : Schema.Document} (hDrawn : Walk.Drawn doc bound)
    (hStubs : Stub.all bound = .ok stubs)
    (hLoad : load enumerate disk dir files bound = .ok recovered) {key body : String}
    (h : recovered.bodies.get? key = some body) : ∃ s ∈ stubs, s.key = key :=
  Stub.exists_stub_of_isLive hDrawn hStubs (isLive_of_load hDrawn.fieldsKeyed hLoad h)

/-- Recovered keys are on one line, if the names of all functions are. -/
theorem notMem_of_load (hKeyed : bound.FieldsKeyed)
    (hLoad : load enumerate disk dir files bound = .ok recovered)
    (hNames : ∀ decl ∈ functionsRead enumerate disk dir files, '\n' ∉ decl.name.toList)
    {key : String} (h : recovered.contains key = true) : '\n' ∉ key.toList := by
  rcases origin_of_contains hKeyed hLoad h with ⟨decl, hMem, rfl, -⟩ | ⟨block, hMem, rfl, -⟩
  · exact hNames decl hMem
  · obtain ⟨file, -, hMem⟩ := List.mem_flatMap.1 hMem
    rw [blocksIn] at hMem
    split at hMem
    · simp at hMem
    · exact (RetainedBlock.isKey_of_mem_scanChars hMem).notMem

/-- **Nothing recovered is dropped.**  Every body has a stub, and stands between the head and the
closing brace of each stub of its key.  Every declaration is listed in the file of one kind, and no
other file lists its key; the blocks themselves show this, unless a function has a name of several
lines. -/
theorem load_is_rendered (hBound : bound.IsBound)
    (hLoad : load enumerate disk dir files bound = .ok recovered) (settings : Settings) :
    ∃ stubs model rest, Stub.all bound = .ok stubs
      ∧ GeneratedFile.renderAll settings bound recovered = .ok (model
        :: ResolverKind.all.map (GeneratedFile.ofResolvers settings bound stubs recovered) ++ rest)
      ∧ (∀ key body, recovered.bodies.get? key = some body → (∃ s ∈ stubs, s.key = key)
        ∧ ∀ s ∈ stubs, s.key = key → ∃ before after,
          (GeneratedFile.ofResolvers settings bound stubs recovered s.kind).contents
            = before ++ (s.header ++ body ++ "\x7d") ++ after)
      ∧ ∀ key declaration, recovered.deprecated.get? key = some declaration → ∃ kind,
        (key, declaration) ∈ ResolverFile.retained bound recovered kind
        ∧ RetainedBlock.render key declaration
          ∈ (ResolverFile.ofKind settings bound stubs recovered kind).blocks
        ∧ (∃ before after, (GeneratedFile.ofResolvers settings bound stubs recovered kind).contents
          = before ++ RetainedBlock.render key declaration ++ after)
        ∧ (∀ other text, (key, text) ∈ ResolverFile.retained bound recovered other → other = kind)
        ∧ ((∀ decl ∈ functionsRead enumerate disk dir files, '\n' ∉ decl.name.toList) →
          ∀ other text, RetainedBlock.render key text
            ∈ (ResolverFile.ofKind settings bound stubs recovered other).blocks → other = kind) := by
  obtain ⟨doc, -, hDrawn, hDecided⟩ := hBound.exists_document
  obtain ⟨stubs, hStubs⟩ := exists_stubs hDrawn hDecided
  obtain ⟨model, rest, hRender⟩ := exists_renderAll hDrawn hDecided settings hStubs
  refine ⟨stubs, model, rest, hStubs, hRender recovered, fun key body hGet => ⟨?_, ?_⟩,
    fun key declaration hGet => ?_⟩
  · exact exists_stub_of_load hDrawn hStubs hLoad hGet
  · intro s hs hKey
    have hCode : s.code recovered = s.header ++ body ++ "\x7d" := by
      rw [Stub.code, Stub.body, hKey, hGet, Option.getD_some]
    obtain ⟨before, after, hText⟩ :=
      ResolverFile.render_of_mem settings bound recovered hs
    exact ⟨before, after, by rw [GeneratedFile.contents_ofResolvers, hText, hCode]⟩
  · have hMem : (key, declaration)
        ∈ ResolverFile.retained bound recovered (Signature.classify key bound).kind :=
      ResolverFile.mem_retained_iff.2 ⟨hGet, rfl⟩
    have hBlock : RetainedBlock.render key declaration ∈ (ResolverFile.ofKind settings bound stubs
        recovered (Signature.classify key bound).kind).blocks := by
      rw [ResolverFile.blocks_ofKind]
      exact List.mem_map.2 ⟨_, hMem, rfl⟩
    obtain ⟨before, after, hText⟩ := ResolverFile.render_of_mem_blocks hBlock
    refine ⟨_, hMem, hBlock, ⟨before, after, ?_⟩, fun other text hOther => ?_,
      fun hNames other text hOther => ?_⟩
    · rw [GeneratedFile.contents_ofResolvers, hText]
    · exact (ResolverFile.mem_retained_iff.1 hOther).2.symm
    · have hContains : ∀ {k d : String}, recovered.deprecated.get? k = some d →
          '\n' ∉ k.toList := fun hk => notMem_of_load hDrawn.fieldsKeyed hLoad hNames
        (by simp [Recovered.contains, Dict.contains, hk])
      rw [ResolverFile.blocks_ofKind] at hOther
      obtain ⟨⟨k, d⟩, hEntry, hSame⟩ := List.mem_map.1 hOther
      obtain ⟨hk, hKind⟩ := ResolverFile.mem_retained_iff.1 hEntry
      rw [RetainedBlock.eq_of_render_eq (hContains hk) (hContains hGet) hSame] at hKind
      exact hKind.symm

end Rendered

end Recovery

/-! ### The small project is bound -/

namespace Sample

def source : Schema.Source := ⟨"schema.graphql", "type Query\x7ba:Int@lambda\x7d"⟩

def field : Schema.Field :=
  { name := "a", description := none, arguments := [], type := ⟨"Int", false, false⟩,
    directives := [⟨"lambda", []⟩] }

def definition : Schema.Definition :=
  { Schema.Definition.emptyObject "Query" ⟨"schema.graphql", 1⟩ with
    fields := [field]
    builtin := false }

theorem nodup_source : ((Schema.Prelude.definitions ++ [definition]).map (·.name)).Nodup := by
  decide

def document : Schema.Document := documentOf _ nodup_source "Query"

theorem load_source : Schema.Document.load [source] = .ok document := by
  have hRead : ∀ e ∈ [(source.text, Schema.Statement.define definition)],
      Schema.Statement.readAll? source.name false e.1 = some [e.2] := by
    simp only [List.forall_mem_singleton]
    cbv
  exact Schema.Document.load_of_readAll? hRead rfl rfl

theorem ofDocument_document : Tree.ofDocument document = .ok tree := by
  have hSeeds : document.definitions.flatMap (Walk.seedTasks document)
      = [.need "Int" "Query.a", .operation .query field] := rfl
  have hNeed : Walk.step document .empty (.need "Int" "Query.a")
      = .ok ({ tree with queries := .empty }, []) := rfl
  have hOperation : Walk.step document { tree with queries := .empty } (.operation .query field)
      = .ok (tree, []) := rfl
  rw [Tree.ofDocument, hSeeds, Walk.run_of_step hNeed, List.nil_append, Walk.run_of_step hOperation,
    List.nil_append, Walk.run]

theorem isBound_tree : tree.IsBound :=
  ⟨[source], document, tree, fun _ _ => .error .missing, ⟨"crate", "src", "model.rs", "crate::model"⟩,
    [], load_source, ofDocument_document, rfl⟩

def settings : Settings :=
  { schema := [source.name], exec := ⟨"exec.rs", "crate"⟩, model := ⟨"model.rs", "crate"⟩,
    resolver := ⟨"r", "crate::r", Settings.usualTemplate⟩, autobind := [], root := "" }

end Sample

/-- The recovered body stands in its stub, and the function that nothing asks for is listed in one
file. -/
theorem Recovery.load_is_rendered_sample :
    ∃ stubs, Stub.all Sample.tree = .ok stubs
      ∧ (∃ s ∈ stubs, s.key = "Query_a" ∧ ∃ before after,
        (GeneratedFile.ofResolvers Sample.settings Sample.tree stubs Sample.recovered s.kind).contents
          = before ++ (s.header ++ "1" ++ "\x7d") ++ after)
      ∧ ∃ kind, ("f", "fn f()\x7b2\x7d") ∈ ResolverFile.retained Sample.tree Sample.recovered kind
        ∧ ∀ other text, RetainedBlock.render "f" text ∈ (ResolverFile.ofKind Sample.settings
          Sample.tree stubs Sample.recovered other).blocks → other = kind := by
  obtain ⟨stubs, model, rest, hStubs, -, hBodies, hDeprecated⟩ :=
    load_is_rendered Sample.isBound_tree Sample.load_eq Sample.settings
  obtain ⟨⟨s, hs, hKey⟩, hText⟩ := hBodies "Query_a" "1" rfl
  obtain ⟨kind, hMem, -, -, -, hOnly⟩ := hDeprecated "f" "fn f()\x7b2\x7d" rfl
  refine ⟨stubs, hStubs, ⟨s, hs, hKey, hText s hs hKey⟩, kind, hMem, hOnly ?_⟩
  decide

/-! ### Names of several lines -/

namespace Sample

def feedDisk : Disk := dir.put ["r"] "q" (.text "x") node?_dir (.inr nofun)

/-- Lists two functions.  The name of the second one goes on where the text of the first one is in
its block. -/
def enumerateFeed : Enumerator := fun path _ =>
  .ok [⟨"Query_", .within path 0 1, .within path 0 1⟩,
    ⟨"Query_\n// x", .within path 1 1, .within path 1 1⟩]

def feed : Recovered := ⟨.empty, (Dict.empty.insert "Query_" "x").insert "Query_\n// x" ""⟩

theorem load_feed : Recovery.load enumerateFeed feedDisk "r" ["r/q"] tree = .ok feed := (rfl)

theorem render_feed :
    RetainedBlock.render "Query_\n// x" "" = RetainedBlock.render "Query_" "x" := by
  decide

end Sample

/-- **One block can stand in two files.**  Of two functions that nothing asks for, one has a name of
two lines.  Their blocks are the same text, but the first name is no name of a query, so that the
block stands in the file of the fields and in the file of the queries. -/
theorem Recovery.block_in_two_files :
    Sample.tree.IsBound
      ∧ load Sample.enumerateFeed Sample.feedDisk "r" ["r/q"] Sample.tree = .ok Sample.feed
      ∧ Sample.feed.deprecated.get? "Query_" = some "x"
      ∧ ∀ stubs kind, RetainedBlock.render "Query_" "x"
          ∈ (ResolverFile.ofKind Sample.settings Sample.tree stubs Sample.feed kind).blocks ↔
        kind = .query ∨ kind = .field := by
  refine ⟨Sample.isBound_tree, Sample.load_feed, rfl, fun stubs kind => ?_⟩
  have hEntries : ∀ kind, ResolverFile.retained Sample.tree Sample.feed kind
      = if kind = .query then [("Query_\n// x", "")]
        else if kind = .field then [("Query_", "x")] else [] := by
    intro kind
    cases kind <;> rfl
  rw [ResolverFile.blocks_ofKind, hEntries]
  cases kind <;> simp [Sample.render_feed]

end ResolverScaffold
