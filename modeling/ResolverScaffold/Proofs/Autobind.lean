import ResolverScaffold.Autobind
import ResolverScaffold.Proofs.Schema.Names
import ResolverScaffold.Proofs.Tree.Walk

/-!
# Bound trees

Binding changes nothing of a tree but its bindings, and keeps their names
(`drawn_decideAll`).  If it succeeds, every name that the tree refers to has a
decided binding (`drawn_and_decided`).  `Tree.IsBound` says that a tree came about
in this way from schema sources.
-/

namespace ResolverScaffold.Autobind

open Walk (Drawn AsksIn)

/-- Nothing is pending. -/
def Settled (tree : Tree) : Prop :=
  ∀ name b, tree.bindings.get? name = some b → b.isResolved = true

/-- Every binding is decided, and every reference has a binding. -/
structure Decided (tree : Tree) : Prop where
  settled : Settled tree
  reference : ∀ r ∈ tree.references, isBound tree r.2.name = true

/-- Binding goes wrong at its end only if something is not decided. -/
theorem unbound?_eq_none_iff {tree : Tree} : unbound? tree = none ↔ Decided tree := by
  rw [unbound?]
  constructor
  · intro h
    split at h
    · cases h
    · rename_i hReferences
      split at h
      · cases h
      · rename_i hBindings
        refine ⟨fun name b hGet => ?_, fun r hr => ?_⟩
        · have hMem : b ∈ tree.bindings.values := tree.bindings.mem_values_iff.2 ⟨name, hGet⟩
          simpa using List.find?_eq_none.1 hBindings b hMem
        · simpa using List.find?_eq_none.1 hReferences r hr
  · intro h
    have hReferences : tree.references.find? (fun r => !isBound tree r.2.name) = none := by
      refine List.find?_eq_none.2 fun r hr => ?_
      simp [h.reference r hr]
    have hBindings : tree.bindings.values.find? (fun b => !b.isResolved) = none := by
      refine List.find?_eq_none.2 fun b hb => ?_
      obtain ⟨name, hGet⟩ := tree.bindings.mem_values_iff.1 hb
      simp [h.settled name b hGet]
    rw [hReferences, hBindings]

/-! ### Deciding -/

theorem get?_decideAll (home : ModelHome) (listed : List Package) (own : Package) (tree : Tree)
    (name : String) :
    (decideAll home listed own tree).bindings.get? name
      = (tree.bindings.get? name).map fun b => b.bind (placement home listed own b.name) := by
  rw [decideAll, Dict.get?_mapValues]

theorem isResolved_bind_placement (b : Binding) (home : ModelHome) (listed : List Package)
    (own : Package) : (b.bind (placement home listed own b.name)).isResolved = true := by
  rw [Binding.bind]
  split
  · assumption
  · rw [placement]
    split
    · rfl
    · split <;> rfl

theorem settled_decideAll (home : ModelHome) (listed : List Package) (own : Package)
    (tree : Tree) : Settled (decideAll home listed own tree) := by
  intro name b h
  rw [get?_decideAll, Option.map_eq_some_iff] at h
  obtain ⟨before, -, rfl⟩ := h
  exact isResolved_bind_placement before home listed own

theorem bindAll_eq_ok_iff {introspect : Introspector} {home : ModelHome}
    {sources : List BindSource} {tree bound : Tree} :
    bindAll introspect home sources tree = .ok bound ↔
      ∃ listed own, loadSources introspect home sources = .ok listed
        ∧ loadHome introspect home = .ok own ∧ bound = decideAll home listed own tree
        ∧ unbound? bound = none := by
  rw [bindAll, bind]
  constructor
  · intro h
    split at h
    · rename_i hBind
      cases h
      split at hBind
      · cases hBind
      · rename_i listed hListed
        split at hBind
        · cases hBind
        · rename_i own hOwn
          obtain ⟨rfl, hUnbound⟩ := Prod.mk.inj hBind
          exact ⟨listed, own, hListed, hOwn, rfl, hUnbound⟩
    · cases h
  · rintro ⟨listed, own, hListed, hOwn, rfl, hUnbound⟩
    simp only [hListed, hOwn, hUnbound]

/-- A tree that was bound is the tree with every binding decided. -/
theorem bindAll_eq_ok {introspect : Introspector} {home : ModelHome} {sources : List BindSource}
    {tree bound : Tree} (h : bindAll introspect home sources tree = .ok bound) :
    ∃ listed own, bound = decideAll home listed own tree ∧ unbound? bound = none := by
  obtain ⟨listed, own, -, -, hBound, hUnbound⟩ := bindAll_eq_ok_iff.1 h
  exact ⟨listed, own, hBound, hUnbound⟩

theorem contains_decideAll (home : ModelHome) (listed : List Package) (own : Package) (tree : Tree)
    (name : String) :
    (decideAll home listed own tree).bindings.contains name = tree.bindings.contains name := by
  rw [Dict.contains, get?_decideAll, Option.isSome_map, Dict.contains]

/-- Deciding bindings keeps a tree drawn from its schema. -/
theorem drawn_decideAll {doc : Schema.Document} {tree : Tree} (h : Drawn doc tree)
    (home : ModelHome) (listed : List Package) (own : Package) :
    Drawn doc (decideAll home listed own tree) where
  entry name e hGet := by
    rw [contains_decideAll]
    exact h.entry name e hGet
  fieldResolver key r hGet := by
    obtain ⟨hKey, d, f, hAsks, hr⟩ := h.fieldResolver key r hGet
    exact ⟨hKey, d, f, hAsks.congr rfl, hr⟩
  query := h.query
  mutation := h.mutation

/-- **What a schema has drawn and binding has decided.** -/
theorem drawn_and_decided {doc : Schema.Document} {introspect : Introspector} {home : ModelHome}
    {sources : List BindSource} {tree bound : Tree} (hTree : Tree.ofDocument doc = .ok tree)
    (hBound : bindAll introspect home sources tree = .ok bound) :
    Drawn doc bound ∧ Decided bound := by
  obtain ⟨listed, own, rfl, hUnbound⟩ := bindAll_eq_ok hBound
  exact ⟨drawn_decideAll (Walk.drawn_of_ofDocument hTree) home listed own,
    unbound?_eq_none_iff.1 hUnbound⟩

end ResolverScaffold.Autobind

namespace ResolverScaffold.Tree

/-- A tree that was drawn from schema sources and bound. -/
def IsBound (bound : Tree) : Prop :=
  ∃ sources doc tree introspect home places,
    Schema.Document.load sources = .ok doc ∧ Tree.ofDocument doc = .ok tree
    ∧ Autobind.bindAll introspect home places tree = .ok bound

/-- **What a bound tree holds** was drawn from a document with names only, and is decided. -/
theorem IsBound.exists_document {bound : Tree} (h : bound.IsBound) :
    ∃ doc : Schema.Document, (∀ d ∈ doc.definitions, d.Named) ∧ Walk.Drawn doc bound
      ∧ Autobind.Decided bound := by
  obtain ⟨sources, doc, tree, introspect, home, places, hLoad, hTree, hBound⟩ := h
  exact ⟨doc, Schema.Document.named_of_load hLoad, Autobind.drawn_and_decided hTree hBound⟩

end ResolverScaffold.Tree
