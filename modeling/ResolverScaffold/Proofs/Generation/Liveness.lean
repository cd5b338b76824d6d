import ResolverScaffold.Proofs.Generation.Preservation

/-!
# Names that are asked for, in a bound tree

Recovery asks of a name whether the tree wants its function, and rendering lists
the functions that the tree wants.  In a bound tree the two agree
(`isLive_iff_exists_stub`), with one name aside: a middleware with the empty name
has a stub, but `Middleware_` is read as no middleware.  `Sample.guardedTree` has
such a middleware.
-/

namespace ResolverScaffold

/-- **The names that are asked for are the keys of the stubs**, and a name is the key of what it
says.  Only the name of the empty middleware is left out: it has a stub and is not asked for. -/
theorem Signature.isLive_iff_exists_stub {bound : Tree} (hBound : bound.IsBound) :
    ∃ stubs, Stub.all bound = .ok stubs ∧ ∀ name,
      (classify name bound).key = name
      ∧ ((classify name bound).isLive bound = true ↔
        (∃ s ∈ stubs, s.key = name)
          ∧ ¬(name = "Middleware_" ∧ bound.middleware.contains "" = true))
      ∧ (name = "Middleware_" → bound.middleware.contains "" = true →
        (∃ s ∈ stubs, s.key = name) ∧ (classify name bound).isLive bound = false) := by
  obtain ⟨doc, hNamed, hDrawn, hDecided⟩ := hBound.exists_document
  obtain ⟨stubs, hStubs⟩ := exists_stubs hDrawn hDecided
  have hDead : (classify "Middleware_" bound).isLive bound = false :=
    Stub.isLive_middlewareKey_empty hNamed hDrawn
  refine ⟨stubs, hStubs, fun name => ⟨classify_key hDrawn.fieldsKeyed name, ⟨fun hLive => ?_, ?_⟩,
    ?_⟩⟩
  · refine ⟨Stub.exists_stub_of_isLive hDrawn hStubs hLive, ?_⟩
    rintro ⟨rfl, -⟩
    rw [hDead] at hLive
    cases hLive
  · rintro ⟨hStub, hNe⟩
    exact (Stub.isLive_iff_of_ne hNamed hDrawn hStubs hNe).2 hStub
  · -- the empty middleware has its stub like any other, but its name is read as none
    rintro rfl hContains
    exact ⟨⟨_, (Stub.ofMiddleware_empty_mem_all_iff hStubs).2 hContains, rfl⟩, hDead⟩

/-! ### A query with a description -/

namespace Sample

def describedField (description : Option String) : Schema.Field :=
  { field with description := description }

def describedDefinition (description : Option String) : Schema.Definition :=
  { definition with fields := [describedField description] }

def describedDocument (description : Option String) : Schema.Document :=
  documentOf (Schema.Prelude.definitions ++ [describedDefinition description]) nodup_source "Query"

def describedTree (description : Option String) (middleware : List String) : Tree :=
  { tree with
    queries := Dict.empty.insert "a"
      ⟨.query, "a", description, [], ⟨"Int", false, false⟩, middleware⟩
    middleware := middleware.foldl NameSet.add .empty }

theorem ofDocument_described {description : Option String} {middleware : List String}
    (hNames : Middleware.names description = middleware) :
    Tree.ofDocument (describedDocument description) = .ok (describedTree description middleware) := by
  have hSeeds : (describedDocument description).definitions.flatMap
      (Walk.seedTasks (describedDocument description))
      = [.need "Int" "Query.a", .operation .query (describedField description)] := rfl
  have hNeed : Walk.step (describedDocument description) .empty (.need "Int" "Query.a")
      = .ok ({ tree with queries := .empty }, []) := rfl
  have hOperation : Walk.step (describedDocument description) { tree with queries := .empty }
      (.operation .query (describedField description))
      = .ok (describedTree description middleware, []) := by
    subst hNames
    rfl
  rw [Tree.ofDocument, hSeeds, Walk.run_of_step hNeed, List.nil_append, Walk.run_of_step hOperation,
    List.nil_append, Walk.run]

/-- A schema whose query is guarded by a middleware with the empty name. -/
def guardedSource : Schema.Source :=
  ⟨"schema.graphql", "type Query\x7b\"@middleware([\\\"\\\"])\"a:Int@lambda\x7d"⟩

def guardedText : String := "@middleware([\"\"])"

def guardedTree : Tree := describedTree (some guardedText) [""]

theorem load_guardedSource :
    Schema.Document.load [guardedSource] = .ok (describedDocument (some guardedText)) := by
  have hRead : ∀ e ∈ [(guardedSource.text,
      Schema.Statement.define (describedDefinition (some guardedText)))],
      Schema.Statement.readAll? guardedSource.name false e.1 = some [e.2] := by
    simp only [List.forall_mem_singleton]
    cbv
  exact Schema.Document.load_of_readAll? hRead rfl rfl

theorem names_guardedText : Middleware.names (some guardedText) = [""] := by
  have hAt : Middleware.contentAt? "@middleware([\"\"])".toList = some ("[\"\"]".toList, []) := by
    decide
  have hRead : StringList.read? "[\"\"]".toList = some [""] := by cbv
  exact Middleware.namesIn_of_contentAt? hAt hRead

theorem isBound_guardedTree : guardedTree.IsBound :=
  ⟨[guardedSource], describedDocument (some guardedText), guardedTree, fun _ _ => .error .missing,
    ⟨"crate", "src", "model.rs", "crate::model"⟩, [], load_guardedSource,
    ofDocument_described names_guardedText, rfl⟩

end Sample

/-- The query is asked for and has its stub; the empty middleware has a stub and is not asked for. -/
theorem Signature.isLive_of_guardedTree :
    ∃ stubs, Stub.all Sample.guardedTree = .ok stubs
      ∧ (∃ s ∈ stubs, s.key = "Query_a")
      ∧ (∃ s ∈ stubs, s.key = "Middleware_")
      ∧ (classify "Middleware_" Sample.guardedTree).isLive Sample.guardedTree = false := by
  obtain ⟨stubs, hStubs, hAgree⟩ := isLive_iff_exists_stub Sample.isBound_guardedTree
  obtain ⟨-, hQuery, -⟩ := hAgree "Query_a"
  obtain ⟨-, -, hMiddleware⟩ := hAgree "Middleware_"
  obtain ⟨hStub, hDead⟩ := hMiddleware rfl rfl
  exact ⟨stubs, hStubs, (hQuery.1 rfl).1, hStub, hDead⟩

end ResolverScaffold
