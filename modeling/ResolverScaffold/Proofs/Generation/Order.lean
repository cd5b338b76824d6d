import Mathlib
import ResolverScaffold.Proofs.Generation.Keys
import ResolverScaffold.Proofs.Tree.Order

/-!
# The order of definitions does not show

The trees of two arrangements of a schema differ in no more than the order of what
a model implements.  Rendering asks only whether a model implements a type, so it
does not change when every such list is sorted (`renderAll_sorted`), and two trees
that are alike are the same once they are sorted.
-/

namespace ResolverScaffold

/-! ### Trees with what models implement in order -/

def Model.sorted (m : Model) : Model :=
  { m with implements := (m.implements : Multiset String).sort (· ≤ ·) }

def Entry.sorted : Entry → Entry
  | .model m => .model m.sorted
  | .interface i => .interface i
  | .enum e => .enum e
  | .scalar s => .scalar s

def Tree.sorted (tree : Tree) : Tree :=
  { tree with entries := tree.entries.mapValues fun _ e => e.sorted }

theorem Entry.Alike.sorted_eq {e e' : Entry} (h : e.Alike e') : e.sorted = e'.sorted := by
  cases h with
  | other => rfl
  | model m hPerm =>
    rw [Entry.sorted, Entry.sorted, Model.sorted, Model.sorted, Multiset.coe_eq_coe.2 hPerm]

theorem Entry.map_sorted_eq {e e' : Option Entry} (h : Option.Rel Entry.Alike e e') :
    e.map Entry.sorted = e'.map Entry.sorted := by
  cases h with
  | none => rfl
  | some hEntry => exact congrArg some hEntry.sorted_eq

namespace Tree

variable {tree tree' : Tree}

/-- **Trees that are alike are the same once they are sorted.** -/
theorem Alike.sorted_eq (h : tree.Alike tree') : tree.sorted = tree'.sorted := by
  have hEntries : tree.entries.mapValues (fun _ e => e.sorted)
      = tree'.entries.mapValues fun _ e => e.sorted := by
    refine Dict.ext_get? fun name => ?_
    rw [Dict.get?_mapValues, Dict.get?_mapValues]
    exact Entry.map_sorted_eq (h.entries name)
  rw [sorted, sorted, hEntries, h.fieldResolvers, h.queries, h.mutations, h.middleware, h.bindings]

theorem Alike.withBindings (h : tree.Alike tree') (bindings : Dict String Binding) :
    Alike { tree with bindings } { tree' with bindings } :=
  ⟨h.entries, h.fieldResolvers, h.queries, h.mutations, h.middleware, rfl⟩

theorem values_entries_sorted (tree : Tree) :
    tree.sorted.entries.values = tree.entries.values.map Entry.sorted := by
  simp only [sorted, Dict.values, Dict.mapValues, List.map_map, Function.comp_def]

theorem models_sorted (tree : Tree) : tree.sorted.models = tree.models.map Model.sorted := by
  rw [models, values_entries_sorted, List.filterMap_map, models, List.map_filterMap]
  exact List.filterMap_congr fun e _ => by cases e <;> rfl

theorem subscribed_sorted (tree : Tree) :
    tree.sorted.subscribed = tree.subscribed.map Model.sorted := by
  rw [subscribed, models_sorted, List.filter_map, subscribed]
  rfl

end Tree

/-! ### Rendering does not ask for the order -/

variable {tree tree' : Tree}

theorem Render.isComposite_sorted (tree : Tree) (name : String) :
    isComposite tree.sorted name = isComposite tree name := by
  rw [isComposite, isComposite, Tree.sorted, Dict.get?_mapValues]
  cases tree.entries.get? name with
  | none => rfl
  | some e => cases e <;> rfl

namespace ModelFile

theorem fieldItem_sorted (tree : Tree) : fieldItem tree.sorted = fieldItem tree := by
  funext f
  rw [fieldItem, fieldItem, Render.fieldType, Render.fieldType, Render.isComposite_sorted]
  rfl

theorem membersOf_sorted (tree : Tree) (name : String) :
    membersOf tree.sorted name = (membersOf tree name).map Model.sorted := by
  rw [membersOf, Tree.models_sorted, List.filter_map, membersOf]
  congr 2
  funext m
  rw [Function.comp_apply, Bool.eq_iff_iff, List.contains_iff_mem, List.contains_iff_mem,
    Model.sorted, Multiset.mem_sort, Multiset.mem_coe]

theorem item_sorted (tree : Tree) (e : Entry) : item tree.sorted e.sorted = item tree e := by
  cases e with
  | enum e => rfl
  | scalar s => rfl
  | interface i =>
    rw [Entry.sorted, item, item, membersOf_sorted, List.mapM_map]
    rfl
  | model m =>
    rw [Entry.sorted, item, item, fieldItem_sorted]
    rfl

theorem isGenerated_sorted (tree : Tree) (e : Entry) :
    isGenerated tree.sorted e.sorted = isGenerated tree e := by
  cases e <;> rfl

theorem ofTree_sorted (tree : Tree) : ofTree tree.sorted = ofTree tree := by
  have hItems : items tree.sorted = items tree := by
    rw [items, Tree.values_entries_sorted, List.filter_map, List.mapM_map, items]
    have hGenerated : isGenerated tree.sorted ∘ Entry.sorted = isGenerated tree :=
      funext (isGenerated_sorted tree)
    have hItem : item tree.sorted ∘ Entry.sorted = item tree := funext (item_sorted tree)
    rw [hGenerated, hItem]
  rw [ofTree, ofTree, hItems]

end ModelFile

theorem Stub.all_sorted (tree : Tree) : all tree.sorted = all tree := by
  rw [all, all, Tree.subscribed_sorted, List.map_map]
  rfl

theorem Dispatch.ofTree_sorted (settings : Settings) (tree : Tree) :
    ofTree settings tree.sorted = ofTree settings tree := by
  rw [ofTree, ofTree, Tree.subscribed_sorted, List.map_map]
  rfl

/-- **Sorting what models implement changes no file.** -/
theorem GeneratedFile.renderAll_sorted (settings : Settings) (tree : Tree) (recovered : Recovered) :
    renderAll settings tree.sorted recovered = renderAll settings tree recovered := by
  rw [renderAll, renderAll, ModelFile.ofTree_sorted, Stub.all_sorted, Dispatch.ofTree_sorted]
  rfl

theorem Tree.Alike.renderAll_eq (h : tree.Alike tree') (settings : Settings)
    (recovered : Recovered) : GeneratedFile.renderAll settings tree recovered
      = GeneratedFile.renderAll settings tree' recovered := by
  rw [← GeneratedFile.renderAll_sorted, h.sorted_eq, GeneratedFile.renderAll_sorted]

/-! ### Binding two trees that are alike -/

namespace Autobind

theorem alike_decideAll (h : tree.Alike tree') (home : ModelHome) (listed : List Package)
    (own : Package) : (decideAll home listed own tree).Alike (decideAll home listed own tree') := by
  rw [decideAll, decideAll, h.bindings]
  exact h.withBindings _

/-- Trees that are alike and were drawn from schemas are bound alike. -/
theorem exists_bindAll_of_alike {doc doc' : Schema.Document} (h : tree.Alike tree')
    (hTree : Tree.ofDocument doc = .ok tree) (hTree' : Tree.ofDocument doc' = .ok tree')
    {introspect : Introspector} {home : ModelHome} {places : List BindSource} {bound : Tree}
    (hBound : bindAll introspect home places tree = .ok bound) :
    ∃ bound', bindAll introspect home places tree' = .ok bound' ∧ bound.Alike bound' := by
  rw [bindAll, bind] at hBound
  rw [bindAll, bind]
  cases hListed : loadSources introspect home places with
  | error e =>
    rw [hListed] at hBound
    cases hBound
  | ok listed =>
    cases hOwn : loadHome introspect home with
    | error e =>
      rw [hListed, hOwn] at hBound
      cases hBound
    | ok own =>
      simp only [hListed, hOwn, unbound?_decideAll hTree, Except.ok.injEq] at hBound
      simp only [unbound?_decideAll hTree', Except.ok.injEq, exists_eq_left']
      exact hBound ▸ alike_decideAll h home listed own

end Autobind

/-! ### All of it -/

open FieldResolver (keyOf)
open Walk (Annotated)

/-- **The order of definitions does not show.**  A document has a tree if and only if each of its
arrangements has one.  If no two types share a key, the trees differ in no more than the order of
what a model implements, and whatever is decided about their types, the files are the same. -/
theorem output_ignores_definition_order {doc doc' : Schema.Document}
    (h : doc.Rearranged doc') :
    ((∃ tree, Tree.ofDocument doc = .ok tree) ↔ ∃ tree, Tree.ofDocument doc' = .ok tree)
    ∧ ((∀ d f e g, Annotated doc d f → Annotated doc e g →
        keyOf d.name f.name = keyOf e.name g.name → d.name = e.name) →
      ∀ tree tree', Tree.ofDocument doc = .ok tree → Tree.ofDocument doc' = .ok tree' →
        tree.Alike tree'
        ∧ (∀ bindings settings recovered,
          GeneratedFile.renderAll settings { tree with bindings } recovered
            = GeneratedFile.renderAll settings { tree' with bindings } recovered)
        ∧ ∀ introspect home places bound,
          Autobind.bindAll introspect home places tree = .ok bound →
          ∃ bound', Autobind.bindAll introspect home places tree' = .ok bound'
            ∧ bound.bindings = bound'.bindings
            ∧ ∀ settings recovered, ∃ files,
              GeneratedFile.renderAll settings bound recovered = .ok files
              ∧ GeneratedFile.renderAll settings bound' recovered = .ok files) := by
  refine ⟨Walk.exists_tree_iff_of_rearranged h, fun hApart tree tree' hTree hTree' => ?_⟩
  have hAlike := Walk.alike_of_rearranged h hApart hTree hTree'
  refine ⟨hAlike, fun bindings settings recovered =>
    (hAlike.withBindings bindings).renderAll_eq settings recovered, ?_⟩
  intro introspect home places bound hBound
  obtain ⟨bound', hBound', hAlike'⟩ := Autobind.exists_bindAll_of_alike hAlike hTree hTree' hBound
  refine ⟨bound', hBound', hAlike'.bindings, fun settings recovered => ?_⟩
  obtain ⟨hDrawn, hDecided⟩ := Autobind.drawn_and_decided hTree hBound
  obtain ⟨stubs, hStubs⟩ := exists_stubs hDrawn hDecided
  obtain ⟨model, rest, hRender⟩ := exists_renderAll hDrawn hDecided settings hStubs
  exact ⟨_, hRender recovered, (hAlike'.renderAll_eq settings recovered).symm.trans
    (hRender recovered)⟩

/-- The ring read backwards. -/
def Sample.ringBackwards : Schema.Document :=
  documentOf ringDocument.definitions.reverse
    (by rw [List.map_reverse, List.nodup_reverse]; exact ringDocument.nodup_names) "Query"

/-- The ring and the ring read backwards. -/
theorem output_of_ring_backwards :
    Schema.Document.load Sample.ringSources = .ok Sample.ringDocument
    ∧ Sample.ringBackwards.definitions = Sample.ringDocument.definitions.reverse
    ∧ ∃ tree bound, Tree.ofDocument Sample.ringBackwards = .ok tree
      ∧ Sample.ringTree.Alike tree
      ∧ Autobind.bindAll Sample.noPackage Sample.ringHome [] tree = .ok bound
      ∧ ∀ settings recovered, ∃ files,
        GeneratedFile.renderAll settings Sample.ringBound recovered = .ok files
        ∧ GeneratedFile.renderAll settings bound recovered = .ok files := by
  have hBackwards : Sample.ringDocument.Rearranged Sample.ringBackwards :=
    ⟨(List.reverse_perm _).symm, rfl, rfl, rfl⟩
  obtain ⟨hAccepts, hOutput⟩ := output_ignores_definition_order hBackwards
  obtain ⟨tree, hTree⟩ := hAccepts.1 ⟨_, Sample.ofDocument_ringDocument⟩
  obtain ⟨hAlike, -, hBind⟩ := hOutput
    (fun d f e g hf hg hKey => (Walk.eq_of_keyOf_eq_in_ring d f e g hf hg hKey).1) _ tree
    Sample.ofDocument_ringDocument hTree
  obtain ⟨bound, hBound, -, hFiles⟩ := hBind _ _ _ _ Sample.bindAll_ringTree
  exact ⟨Sample.load_ringSources, rfl, tree, bound, hTree, hAlike, hBound, hFiles⟩

end ResolverScaffold
