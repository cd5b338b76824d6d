import Mathlib
import ResolverScaffold.Proofs.Schema.Load

/-!
# Coherent documents

A definition never moves: a statement adds a name at the end of a draft or changes
the definition of a name where it stands (`staysIn_of_add`), and so does the
query root that is put in when a schema has none.  A position that the index gave for a
name at any time while sources were read is therefore its position in the document, and
the roots that are settled last name definitions of the document.

* `Document.Coherent`: each name at one position, an index that points there and nowhere
  else, look-ups that find it, roots that are defined.
* `Document.coherent_of_load`: all of it holds of whatever was loaded.
-/

namespace ResolverScaffold

namespace Schema

namespace Draft

variable {draft draft' : Draft} {d : Definition} {doc : Document}

/-! ### Positions stay -/

/-- What `draft` defines stands in `draft'` at the same positions. -/
def StaysIn (draft draft' : Draft) : Prop := draft.names <+: draft'.names

theorem StaysIn.refl (draft : Draft) : draft.StaysIn draft := List.prefix_rfl

theorem StaysIn.trans {a b c : Draft} (h : a.StaysIn b) (h' : b.StaysIn c) : a.StaysIn c :=
  List.IsPrefix.trans h h'

/-- What the index of `draft` says, the index of `draft'` says. -/
theorem StaysIn.index_get? (h : draft.StaysIn draft') {name : String} {i : Nat}
    (hIndex : draft.index.get? name = some i) : draft'.index.get? name = some i := by
  obtain ⟨rest, hRest⟩ := h
  rw [Table.indexed_iff] at hIndex ⊢
  rw [← hRest, List.getElem?_append_left (List.getElem?_eq_some_iff.1 hIndex).1]
  exact hIndex

theorem staysIn_append (hNew : draft.get? d.name = none) :
    draft.StaysIn (draft.append d hNew) := by
  show draft.names <+: (draft.push d hNew).names
  rw [Table.names_push]
  exact List.prefix_append _ _

theorem staysIn_update {name : String} {f : Definition → Definition}
    {hf : ∀ d, d.name = name → (f d).name = name} : draft.StaysIn (draft.update name f hf) := by
  show draft.names <+: (draft.toTable.update name f hf).names
  rw [Table.names_update]

theorem staysIn_of_add {s : Statement} (h : draft.add s = .ok draft') : draft.StaysIn draft' := by
  cases adds_of_add h with
  | roots r => exact .refl draft
  | directive => exact .refl draft
  | new _ hNew => exact staysIn_append hNew
  | replaced _ _ _ => exact staysIn_update
  | extended _ => exact staysIn_update

theorem staysIn_of_addSource {source : Source} (h : draft.addSource source = .ok draft') :
    draft.StaysIn draft' := by
  unfold addSource at h
  split at h
  · cases h
  · exact foldlM_invariant (fun _ _ _ _ hStays hAdd => StaysIn.trans hStays (staysIn_of_add hAdd))
      (.refl draft) h

theorem staysIn_of_foldlM {sources : List Source}
    (h : sources.foldlM addSource draft = .ok draft') : draft.StaysIn draft' :=
  foldlM_invariant (fun _ _ _ _ hStays hAdd => StaysIn.trans hStays (staysIn_of_addSource hAdd))
    (.refl draft) h

/-! ### Roots are defined -/

theorem settleQuery_eq_ok {query : String} (h : draft.settleQuery = .ok (draft', query)) :
    (draft' = draft ∨ ∃ hNew, draft' = draft.append emptyQuery hNew) ∧ query ∈ draft'.names := by
  rw [settleQuery] at h
  split at h <;> split at h <;> cases h
  · exact ⟨.inl rfl, Table.defines_eq_true_iff.1 (by assumption)⟩
  · exact ⟨.inl rfl, Table.mem_names_iff.2 ⟨_, by assumption⟩⟩
  · next hNew =>
    refine ⟨.inr ⟨hNew, rfl⟩, ?_⟩
    show emptyQuery.name ∈ (draft.push emptyQuery hNew).names
    rw [Table.names_push]
    exact List.mem_append_right _ List.mem_cons_self

theorem staysIn_of_settleQuery {query : String} (h : draft.settleQuery = .ok (draft', query)) :
    draft.StaysIn draft' := by
  rcases (settleQuery_eq_ok h).1 with rfl | ⟨hNew, rfl⟩
  · exact .refl _
  · exact staysIn_append hNew

theorem mem_names_of_rootOr {root usual name : String} {named : Option String}
    (h : draft.rootOr root usual named = .ok (some name)) : name ∈ draft.names := by
  cases named with
  | some other =>
    rw [rootOr] at h
    split at h <;> cases h
    exact Table.defines_eq_true_iff.1 (by assumption)
  | none =>
    rw [rootOr] at h
    split at h <;> cases h
    exact Table.defines_eq_true_iff.1 (by assumption)

theorem finish_eq_ok (h : draft.finish = .ok doc) :
    ∃ settled, draft.settleQuery = .ok (settled, doc.query)
      ∧ settled.toTable = doc.toTable
      ∧ settled.rootOr "mutation" "Mutation" settled.roots.mutation = .ok doc.mutation
      ∧ settled.rootOr "subscription" "Subscription" settled.roots.subscription
        = .ok doc.subscription := by
  obtain ⟨⟨settled, query⟩, hQuery, h⟩ := bind_eq_ok_iff.1 h
  obtain ⟨mutation, hMutation, h⟩ := bind_eq_ok_iff.1 h
  obtain ⟨subscription, hSubscription, h⟩ := bind_eq_ok_iff.1 h
  rw [pure_eq_ok_iff] at h
  subst h
  exact ⟨settled, hQuery, rfl, hMutation, hSubscription⟩

end Draft

namespace Document

variable {doc : Document}

/-- Every name stands at one position, the index points there, a look-up finds what stands there,
and roots are defined. -/
structure Coherent (doc : Document) : Prop where
  distinct : doc.names.Nodup
  /-- Every definition has its entry in the index, and looking its name up gives it. -/
  entered : ∀ (i : Nat) d, doc.definitions[i]? = some d →
    doc.index.get? d.name = some i ∧ doc.get? d.name = some d
  /-- No entry points at a missing position or at a definition of another name. -/
  pointed : ∀ name i, doc.index.get? name = some i →
    ∃ d, doc.definitions[i]? = some d ∧ d.name = name ∧ doc.get? name = some d
  found : ∀ name d, doc.get? name = some d → d.name = name ∧ ∃ i : Nat, doc.definitions[i]? = some d
  absent : ∀ name, doc.get? name = none ↔ name ∉ doc.names
  query : doc.query ∈ doc.names
  mutation : ∀ name, doc.mutation = some name → name ∈ doc.names
  subscription : ∀ name, doc.subscription = some name → name ∈ doc.names

/-- **A document that was loaded is coherent.**  Each name is defined at one position, which the
index gives; looking a name up gives the definition at its position and nothing where there is
none, and all roots are defined.  The position that the index gave for a name when only some of
the sources had been read is the one it gives at the end. -/
theorem coherent_of_load {sources : List Source} (h : load sources = .ok doc) :
    doc.Coherent ∧ ∀ before after draft, sources = before ++ after →
      before.foldlM Draft.addSource Draft.initial = .ok draft →
      ∀ name i, draft.index.get? name = some i →
        doc.index.get? name = some i ∧ doc.names[i]? = some name := by
  obtain ⟨last, hLast, hFinish⟩ := bind_eq_ok_iff.1 h
  obtain ⟨settled, hSettle, hSame, hMutation, hSubscription⟩ := Draft.finish_eq_ok hFinish
  have hQuery := (Draft.settleQuery_eq_ok hSettle).2
  refine ⟨⟨doc.nodup_names, ?_, ?_, fun name d => Table.get?_eq_some_iff_getElem?.1,
    fun name => Table.get?_eq_none_iff, hSame ▸ hQuery, ?_, ?_⟩, ?_⟩
  · intro i d hAt
    exact ⟨(doc.indexed d.name i).2 (by rw [hAt]; rfl),
      Table.get?_eq_some_iff.2 ⟨List.mem_of_getElem? hAt, rfl⟩⟩
  · intro name i hIndex
    obtain ⟨d, hAt, rfl⟩ := Option.map_eq_some_iff.1 ((doc.indexed name i).1 hIndex)
    exact ⟨d, hAt, rfl, Table.get?_eq_some_iff.2 ⟨List.mem_of_getElem? hAt, rfl⟩⟩
  · intro name hName
    exact hSame ▸ Draft.mem_names_of_rootOr (hMutation.trans (congrArg _ hName))
  · intro name hName
    exact hSame ▸ Draft.mem_names_of_rootOr (hSubscription.trans (congrArg _ hName))
  · rintro before after draft rfl hBefore name i hIndex
    rw [List.foldlM_append, hBefore] at hLast
    have hStays := (Draft.staysIn_of_foldlM hLast).trans (Draft.staysIn_of_settleQuery hSettle)
    have hEnd : doc.index.get? name = some i := hSame ▸ hStays.index_get? hIndex
    exact ⟨hEnd, Table.indexed_iff.1 hEnd⟩

end Document

end Schema

/-! ### A schema in five sources -/

namespace Sample

def splitField (name : String) : Schema.Field :=
  { name, description := none, arguments := [], type := ⟨"Int", false, false⟩, directives := [] }

def splitDefinition (kind : Schema.Kind) (name : String) : Schema.Definition :=
  { Schema.Definition.emptyObject name ⟨"schema.graphql", 1⟩ with kind, builtin := false }

def splitRoot : Schema.Definition :=
  { splitDefinition .object "Root" with fields := [splitField "a"] }

def splitExtension : Schema.Definition :=
  { splitDefinition .object "Root" with
    fields := [splitField "b"], implements := ["Node"], directives := [⟨"key", []⟩] }

def splitNode : Schema.Definition :=
  { splitDefinition .interface "Node" with fields := [splitField "a"] }

/-- A renamed query root that is extended, and a scalar that takes the place of a built-in one. -/
def splitStatements : List (String × Schema.Statement) :=
  [("scalar DateTime", .define (splitDefinition .scalar "DateTime")),
   ("schema\x7bquery:Root\x7d", .roots { query := some "Root" }),
   ("type Root\x7ba:Int\x7d", .define splitRoot),
   ("extend type Root implements Node@key\x7bb:Int\x7d", .extend splitExtension),
   ("interface Node\x7ba:Int\x7d", .define splitNode)]

def splitSources : List Schema.Source := splitStatements.map fun e => ⟨"schema.graphql", e.1⟩

def splitDefinitions : List Schema.Definition :=
  (Schema.Prelude.definitions.map fun d =>
      if d.name = "DateTime" then splitDefinition .scalar "DateTime" else d)
    ++ [splitRoot.extend splitExtension, splitNode]

theorem nodup_split : (splitDefinitions.map (·.name)).Nodup := by decide

def splitDocument : Schema.Document := documentOf splitDefinitions nodup_split "Root"

theorem readAll?_split : ∀ e ∈ splitStatements,
    Schema.Statement.readAll? "schema.graphql" false e.1 = some [e.2] := by
  simp only [splitStatements, List.forall_mem_cons]
  refine ⟨?_, ?_, ?_, ?_, ?_, by simp⟩ <;> cbv

theorem load_splitSources : Schema.Document.load splitSources = .ok splitDocument :=
  Schema.Document.load_of_readAll? readAll?_split rfl rfl

end Sample

namespace Schema.Document

/-- The scalar stands where the built-in one stood, and the root is found with its extension. -/
theorem coherent_split :
    load Sample.splitSources = .ok Sample.splitDocument
    ∧ Sample.splitDocument.index.get? "DateTime" = some 2
    ∧ Sample.splitDocument.get? "DateTime" = some (Sample.splitDefinition .scalar "DateTime")
    ∧ Sample.splitDocument.get? "Root" = some (Sample.splitRoot.extend Sample.splitExtension)
    ∧ Sample.splitDocument.get? "Query" = none
    ∧ "Root" ∈ Sample.splitDocument.names := by
  obtain ⟨hCoherent, hStays⟩ := coherent_of_load Sample.load_splitSources
  refine ⟨Sample.load_splitSources, (hStays [] _ _ rfl rfl "DateTime" 2 rfl).1,
    (hCoherent.entered 2 _ rfl).2, (hCoherent.entered 13 _ rfl).2,
    (hCoherent.absent _).2 (by decide), hCoherent.query⟩

end Schema.Document

end ResolverScaffold
