import ResolverScaffold.Proofs.Render.Total
import ResolverScaffold.Proofs.Tree.Reachable

/-!
# A tree that was drawn can be bound and rendered

Binding checks that every reference of a tree has a binding, and rendering fails
where one has none.  For a tree that was drawn from a schema neither can happen:
a reference is a type that can be reached (`reachable_of_mem_references`), and
the names that can be reached are bound.  So binding fails only where a package
cannot be loaded (`bind_cases`), and if it does not fail, all files can be
rendered.
-/

namespace ResolverScaffold

open Walk (Reachable Drawn)

variable {doc : Schema.Document} {tree : Tree}

/-! ### References can be reached -/

namespace Walk

theorem edge_of_contains_entries (hTree : Tree.ofDocument doc = .ok tree) {d : Schema.Definition}
    (hGet : doc.get? d.name = some d) (hEntered : tree.entries.contains d.name = true)
    {next : String} (hRefers : Refers doc d next) : Reachable doc next := by
  have hInv := explored_of_ofDocument hTree
  obtain ⟨hBound, hNot⟩ := (hInv.entered d.name).1 hEntered
  exact .edge ((contains_bindings_iff hTree).1 hBound) ⟨hNot, d, hGet, hRefers⟩

/-- The types of the fields of an entry can be reached. -/
theorem reachable_of_mem_fields (hTree : Tree.ofDocument doc = .ok tree) {name : String}
    {d : Schema.Definition} (hGet : doc.get? name = some d)
    (hEntered : tree.entries.get? name = some (entry doc d)) (hKind : recordsFields d.kind = true)
    {f : Field} (hf : f ∈ d.fields.map (field d.name)) : Reachable doc f.type.name := by
  have hName := Schema.Table.name_of_get? hGet
  subst hName
  obtain ⟨g, hg, rfl⟩ := List.mem_map.1 hf
  exact edge_of_contains_entries hTree hGet (tree.entries.contains_eq_true_iff.2 ⟨_, hEntered⟩)
    (.field hKind hg)

theorem reachable_of_model (hTree : Tree.ofDocument doc = .ok tree) {m : Model}
    (hm : m ∈ tree.models) {f : Field} (hf : f ∈ m.fields) : Reachable doc f.type.name := by
  obtain ⟨name, hEntered⟩ := Tree.mem_models_iff.1 hm
  obtain ⟨-, d, hGet, hEntry⟩ := (drawn_of_ofDocument hTree).entry name _ hEntered
  have hFields := reachable_of_mem_fields hTree hGet (hEntry ▸ hEntered)
  rw [entry] at hEntry
  split at hEntry <;> cases hEntry
  case h_1 hKind => exact hFields (by rw [hKind]; rfl) hf
  case h_2 hKind => exact hFields (by rw [hKind]; rfl) hf

theorem reachable_of_interface (hTree : Tree.ofDocument doc = .ok tree) {i : Interface}
    (hi : i ∈ tree.interfaces) {f : Field} (hf : f ∈ i.fields) : Reachable doc f.type.name := by
  obtain ⟨name, hEntered⟩ := Tree.mem_interfaces_iff.1 hi
  obtain ⟨-, d, hGet, hEntry⟩ := (drawn_of_ofDocument hTree).entry name _ hEntered
  have hFields := reachable_of_mem_fields hTree hGet (hEntry ▸ hEntered)
  rw [entry] at hEntry
  split at hEntry <;> cases hEntry
  case h_3 hKind => exact hFields (by rw [hKind]; rfl) hf
  -- a union has no fields of its own
  case h_4 => cases hf

/-- The types that an operation uses are seeds. -/
theorem reachable_of_operation (hTree : Tree.ofDocument doc = .ok tree) {o : Operation}
    (ho : o ∈ tree.operations) {r : String × TypeRef} (hr : r ∈ Tree.operationReferences o) :
    Reachable doc r.2.name := by
  have hDrawn := drawn_of_ofDocument hTree
  obtain ⟨kind, f, hOperation, rfl⟩ : ∃ kind f, IsOperation doc kind f ∧ o = operation kind f := by
    rcases Tree.mem_operations_iff.1 ho with ⟨name, hGet⟩ | ⟨name, hGet⟩
    · obtain ⟨-, f, hf, rfl⟩ := hDrawn.query name o hGet
      exact ⟨.query, f, hf, rfl⟩
    · obtain ⟨-, f, hf, rfl⟩ := hDrawn.mutation name o hGet
      exact ⟨.mutation, f, hf, rfl⟩
  refine .seed (.operation hOperation ?_)
  rcases List.mem_cons.1 hr with rfl | hr
  · exact List.mem_cons_self
  · obtain ⟨a, ha, rfl⟩ := List.mem_map.1 hr
    obtain ⟨b, hb, rfl⟩ := List.mem_map.1 ha
    exact List.mem_cons_of_mem _ (List.mem_map.2 ⟨b, hb, rfl⟩)

/-- **Every reference of a tree can be reached.** -/
theorem reachable_of_mem_references (hTree : Tree.ofDocument doc = .ok tree)
    {r : String × TypeRef} (hr : r ∈ tree.references) : Reachable doc r.2.name := by
  rw [Tree.references, List.mem_append, List.mem_append] at hr
  rcases hr with (hr | hr) | hr
  · obtain ⟨m, hm, hr⟩ := List.mem_flatMap.1 hr
    obtain ⟨f, hf, rfl⟩ := List.mem_map.1 hr
    exact reachable_of_model hTree hm hf
  · obtain ⟨i, hi, hr⟩ := List.mem_flatMap.1 hr
    obtain ⟨f, hf, rfl⟩ := List.mem_map.1 hr
    exact reachable_of_interface hTree hi hf
  · obtain ⟨o, ho, hr⟩ := List.mem_flatMap.1 hr
    exact reachable_of_operation hTree ho hr

end Walk

/-! ### Binding -/

namespace Autobind

theorem isBound_decideAll (home : ModelHome) (listed : List Package) (own : Package)
    {name : String} (h : tree.bindings.contains name = true) :
    isBound (decideAll home listed own tree) name = true := by
  obtain ⟨b, hGet⟩ := tree.bindings.contains_eq_true_iff.1 h
  rw [isBound, get?_decideAll, hGet]
  exact isResolved_bind_placement b home listed own

/-- Nothing of a tree that was drawn stays unbound. -/
theorem unbound?_decideAll (hTree : Tree.ofDocument doc = .ok tree) (home : ModelHome)
    (listed : List Package) (own : Package) : unbound? (decideAll home listed own tree) = none := by
  refine unbound?_eq_none_iff.2 ⟨settled_decideAll home listed own tree, fun r hr => ?_⟩
  have hReachable := Walk.reachable_of_mem_references hTree (r := r) hr
  exact isBound_decideAll home listed own ((Walk.contains_bindings_iff hTree).2 hReachable)

section Outcome

variable {introspect : Introspector} {home : ModelHome} {sources : List BindSource}

theorem exists_of_loadSources_eq_error {e : BindError}
    (h : loadSources introspect home sources = .error e) :
    ∃ s ∈ sources, ∃ reason, introspect s.module s.path = .error reason
      ∧ e = .sourceUnavailable s.module s.path reason := by
  rw [loadSources] at h
  obtain ⟨s, hs, hFail⟩ := exists_of_mapM_eq_error h
  split at hFail
  · cases hFail
  · rename_i reason hReason
    cases hFail
    exact ⟨s, (List.mem_filter.1 hs).1, reason, hReason, rfl⟩

theorem exists_of_loadHome_eq_error {e : BindError} (h : loadHome introspect home = .error e) :
    ∃ reason, introspect home.module home.dir = .error (.invalid reason)
      ∧ e = .homeUnavailable home.dir reason := by
  rw [loadHome] at h
  split at h
  · cases h
  · cases h
  · rename_i reason hReason
    cases h
    exact ⟨reason, hReason, rfl⟩

/-- **How binding can end** for a tree that was drawn: everything is decided, or a package that
had to be loaded could not be. -/
theorem bind_cases (hTree : Tree.ofDocument doc = .ok tree) {bound : Tree}
    {outcome : Option BindError} (h : bind introspect home sources tree = (bound, outcome)) :
    outcome = none
    ∨ (∃ s ∈ sources, ∃ reason, introspect s.module s.path = .error reason
      ∧ outcome = some (.sourceUnavailable s.module s.path reason))
    ∨ ∃ reason, introspect home.module home.dir = .error (.invalid reason)
      ∧ outcome = some (.homeUnavailable home.dir reason) := by
  rw [bind] at h
  split at h
  · rename_i e hSources
    obtain ⟨s, hs, reason, hReason, rfl⟩ := exists_of_loadSources_eq_error hSources
    cases h
    exact .inr (.inl ⟨s, hs, reason, hReason, rfl⟩)
  · split at h
    · rename_i e hHome
      obtain ⟨reason, hReason, rfl⟩ := exists_of_loadHome_eq_error hHome
      cases h
      exact .inr (.inr ⟨reason, hReason, rfl⟩)
    · rw [← (Prod.mk.inj h).2]
      exact .inl (unbound?_decideAll hTree home _ _)

end Outcome

end Autobind

/-- **After a tree was drawn only packages can be missing.**  Binding leaves no type without a
binding, and it fails only where a package cannot be loaded; if it does not fail, rendering does not
either. -/
theorem Autobind.only_packages_fail (hTree : Tree.ofDocument doc = .ok tree)
    (introspect : Introspector) (home : ModelHome) (sources : List BindSource) (bound : Tree)
    (outcome : Option BindError) (h : bind introspect home sources tree = (bound, outcome)) :
    (∀ name usedBy, outcome ≠ some (.unbound name usedBy))
    ∧ (outcome = none
      ∨ (∃ s ∈ sources, ∃ reason, introspect s.module s.path = .error reason
        ∧ outcome = some (.sourceUnavailable s.module s.path reason))
      ∨ ∃ reason, introspect home.module home.dir = .error (.invalid reason)
        ∧ outcome = some (.homeUnavailable home.dir reason))
    ∧ (outcome = none → ∀ settings recovered,
      (∃ models, ModelFile.ofTree bound = .ok models) ∧ (∃ stubs, Stub.all bound = .ok stubs)
      ∧ (∃ dispatch, Dispatch.ofTree settings bound = .ok dispatch)
      ∧ ∃ files, GeneratedFile.renderAll settings bound recovered = .ok files) := by
  have hCases := bind_cases hTree h
  refine ⟨?_, hCases, ?_⟩
  · rintro name usedBy rfl
    rcases hCases with hNone | ⟨s, -, reason, -, hSome⟩ | ⟨reason, -, hSome⟩
    · cases hNone
    · cases hSome
    · cases hSome
  · rintro rfl settings recovered
    have hBound : bindAll introspect home sources tree = .ok bound := by
      rw [bindAll, h]
    obtain ⟨hDrawn, hDecided⟩ := drawn_and_decided hTree hBound
    obtain ⟨stubs, hStubs⟩ := exists_stubs hDrawn hDecided
    obtain ⟨model, rest, hRender⟩ := exists_renderAll hDrawn hDecided settings hStubs
    exact ⟨exists_modelFile hDrawn hDecided, ⟨stubs, hStubs⟩,
      exists_dispatch hDrawn hDecided settings, _, hRender recovered⟩

/-! ### The ring is bound -/

namespace Sample

def ringHome : ModelHome := ⟨"crate", "src", "model.rs", "crate::model"⟩

/-- Nothing is written by hand: there is no package at all. -/
def noPackage : Introspector := fun _ _ => .error .missing

def ringBound : Tree :=
  { ringTree with
    bindings := ringTree.bindings.mapValues fun _ b => b.bind (.generated "crate::model") }

theorem bind_ringTree : Autobind.bind noPackage ringHome [] ringTree = (ringBound, none) := rfl

theorem bindAll_ringTree : Autobind.bindAll noPackage ringHome [] ringTree = .ok ringBound := rfl

end Sample

theorem Autobind.ring_is_rendered :
    Tree.ofDocument Sample.ringDocument = .ok Sample.ringTree
    ∧ bind Sample.noPackage Sample.ringHome [] Sample.ringTree = (Sample.ringBound, none)
    ∧ ∀ settings recovered, ∃ files,
      GeneratedFile.renderAll settings Sample.ringBound recovered = .ok files := by
  obtain ⟨-, -, hRender⟩ := only_packages_fail Sample.ofDocument_ringDocument Sample.noPackage
    Sample.ringHome [] Sample.ringBound none Sample.bind_ringTree
  refine ⟨Sample.ofDocument_ringDocument, Sample.bind_ringTree, fun settings recovered => ?_⟩
  obtain ⟨-, -, -, hFiles⟩ := hRender rfl settings recovered
  exact hFiles

end ResolverScaffold
