import ResolverScaffold.Proofs.Generation.Totality
import ResolverScaffold.Proofs.Tree.Order

/-!
# Trees are closed

The walk records a binding when a name is met and an entry when a definition is
opened.  `Closed` says that at the end the two fit: a binding is primitive or has
its entry, an entry has its binding, and no type that is named anywhere in the
tree is without one.

While the walk is under way only the names that tasks still await may lack a
binding (`Explored`), so all of this is read off a walk that awaits nothing.
-/

namespace ResolverScaffold.Walk

open Schema (Document Definition)

structure Closed (doc : Document) (tree : Tree) : Prop where
  name : ∀ key b, tree.bindings.get? key = some b → b.name = key
  /-- A binding is primitive and has no entry, or it is pending and has one: that of its key, which
  has the key for its name, as no other entry does. -/
  binding : ∀ key b, tree.bindings.get? key = some b →
    (b.isPrimitive = true ∧ tree.entries.contains key = false)
    ∨ (b.isResolved = false ∧ ∃ e, tree.entries.get? key = some e ∧ e.name = key
      ∧ ∀ other e', tree.entries.get? other = some e' → e'.name = key → other = key)
  entry : ∀ key e, tree.entries.get? key = some e →
    ∃ b, tree.bindings.get? key = some b ∧ b.isResolved = false
  modelField : ∀ m ∈ tree.models, ∀ f ∈ m.fields, tree.bindings.contains f.type.name = true
  implements : ∀ m ∈ tree.models, ∀ name ∈ m.implements, tree.bindings.contains name = true
  interfaceField : ∀ i ∈ tree.interfaces, ∀ f ∈ i.fields,
    tree.bindings.contains f.type.name = true
  returns : ∀ o ∈ tree.operations, tree.bindings.contains o.returns.name = true
  argument : ∀ o ∈ tree.operations, ∀ a ∈ o.arguments, tree.bindings.contains a.type.name = true
  fieldResolver : ∀ key r, tree.fieldResolvers.get? key = some r →
    tree.bindings.contains r.parent = true ∧ tree.bindings.contains r.field.type.name = true
  /-- Neither root of operations is a type of its own. -/
  root : ∀ kind name, rootOf doc kind = some name → tree.entries.contains name = false

variable {doc : Document} {tree : Tree}

/-! ### Bindings and entries -/

theorem name_bindingOf (name : String) : (bindingOf name).name = name := by
  rw [bindingOf]
  split <;> rfl

theorem isPrimitive_bindingOf {name rustType : String} (h : primitive? name = some rustType) :
    (bindingOf name).isPrimitive = true := by
  rw [bindingOf, h]
  rfl

theorem isResolved_bindingOf {name : String} (h : primitive? name = none) :
    (bindingOf name).isResolved = false := by
  rw [bindingOf, h]
  rfl

/-- A bound name has an entry unless it is primitive. -/
theorem contains_entries_iff_of_bound (hTree : Tree.ofDocument doc = .ok tree) {key : String}
    {b : Binding} (hGet : tree.bindings.get? key = some b) :
    tree.entries.contains key = true ↔ primitive? key = none := by
  rw [(explored_of_ofDocument hTree).entered]
  exact and_iff_right (tree.bindings.contains_eq_true_iff.2 ⟨b, hGet⟩)

theorem binding_cases_of_ofDocument (hTree : Tree.ofDocument doc = .ok tree) {key : String}
    {b : Binding} (hGet : tree.bindings.get? key = some b) :
    (b.isPrimitive = true ∧ tree.entries.contains key = false)
    ∨ (b.isResolved = false ∧ ∃ e, tree.entries.get? key = some e ∧ e.name = key
      ∧ ∀ other e', tree.entries.get? other = some e' → e'.name = key → other = key) := by
  have hDrawn := drawn_of_ofDocument hTree
  have hEntered := contains_entries_iff_of_bound hTree hGet
  rw [eq_bindingOf hTree hGet]
  cases hPrimitive : primitive? key with
  | some rustType =>
    refine .inl ⟨isPrimitive_bindingOf hPrimitive, ?_⟩
    rw [← Bool.not_eq_true, hEntered, hPrimitive]
    simp
  | none =>
    obtain ⟨e, hEntry⟩ := tree.entries.contains_eq_true_iff.1 (hEntered.2 hPrimitive)
    refine .inr ⟨isResolved_bindingOf hPrimitive, e, hEntry, hDrawn.entry_name hEntry, ?_⟩
    intro other e' hOther hName
    rw [← hDrawn.entry_name hOther, hName]

theorem exists_pending_of_entry (hTree : Tree.ofDocument doc = .ok tree) {key : String} {e : Entry}
    (hGet : tree.entries.get? key = some e) :
    ∃ b, tree.bindings.get? key = some b ∧ b.isResolved = false := by
  obtain ⟨hBound, hNot⟩ := ((explored_of_ofDocument hTree).entered key).1
    (tree.entries.contains_eq_true_iff.2 ⟨e, hGet⟩)
  obtain ⟨b, hBinding⟩ := tree.bindings.contains_eq_true_iff.1 hBound
  refine ⟨b, hBinding, ?_⟩
  rw [eq_bindingOf hTree hBinding]
  exact isResolved_bindingOf hNot

theorem contains_entries_of_root (hTree : Tree.ofDocument doc = .ok tree) {kind : OperationKind}
    {name : String} (hRoot : rootOf doc kind = some name) : tree.entries.contains name = false := by
  rw [← Bool.not_eq_true]
  intro hEntered
  have hInv := explored_of_ofDocument hTree
  obtain ⟨hBound, hNot⟩ := (hInv.entered name).1 hEntered
  obtain ⟨-, hQuery, hMutation⟩ := hInv.usable name hBound hNot
  cases kind with
  | query => exact hQuery (Option.some.inj hRoot).symm
  | mutation => exact hMutation hRoot.symm

/-! ### Names in the tree -/

/-- What a model belongs to is what its definition refers to. -/
theorem reachable_of_implements (hTree : Tree.ofDocument doc = .ok tree) {m : Model}
    (hm : m ∈ tree.models) {name : String} (hName : name ∈ m.implements) : Reachable doc name := by
  obtain ⟨key, hEntered⟩ := Tree.mem_models_iff.1 hm
  obtain ⟨-, d, hGet, hEntry⟩ := (drawn_of_ofDocument hTree).entry key _ hEntered
  have hSelf := Schema.Table.name_of_get? hGet
  subst hSelf
  have hRefers : ∀ {next}, Refers doc d next → Reachable doc next :=
    edge_of_contains_entries hTree hGet (tree.entries.contains_eq_true_iff.2 ⟨_, hEntered⟩)
  have hParent : d.kind = .object ∨ d.kind = .input → name ∈ parents doc d →
      Reachable doc name := by
    intro hKind hIn
    rcases mem_parents_iff.1 hIn with hIn | ⟨u, hu, hUnion, hMember, rfl⟩
    · have hRecords : recordsFields d.kind = true := by
        rcases hKind with hKind | hKind <;> rw [hKind] <;> rfl
      exact hRefers (.implements hRecords hIn)
    · exact hRefers (.union hKind hu hUnion hMember)
  rw [Walk.entry] at hEntry
  split at hEntry <;> cases hEntry
  case h_1 hKind => exact hParent (.inl hKind) hName
  case h_2 hKind => exact hParent (.inr hKind) hName

theorem reachable_of_fieldResolver (hTree : Tree.ofDocument doc = .ok tree) {key : String}
    {r : FieldResolver} (hGet : tree.fieldResolvers.get? key = some r) :
    Reachable doc r.parent ∧ Reachable doc r.field.type.name := by
  obtain ⟨-, d, f, hAsks, rfl⟩ := (drawn_of_ofDocument hTree).fieldResolver key r hGet
  have hEntered := tree.entries.contains_eq_true_iff.2 ⟨_, hAsks.entered⟩
  obtain ⟨hBound, -⟩ := ((explored_of_ofDocument hTree).entered d.name).1 hEntered
  exact ⟨(contains_bindings_iff hTree).1 hBound,
    edge_of_contains_entries hTree hAsks.defined hEntered (.field hAsks.hasFields hAsks.mem)⟩

/-- **The tree of a schema is closed.** -/
theorem closed_of_ofDocument (hTree : Tree.ofDocument doc = .ok tree) : Closed doc tree := by
  have hBound : ∀ {name}, Reachable doc name → tree.bindings.contains name = true :=
    (contains_bindings_iff hTree).2
  constructor
  case name =>
    intro key b hGet
    rw [eq_bindingOf hTree hGet, name_bindingOf]
  case binding => exact fun key b hGet => binding_cases_of_ofDocument hTree hGet
  case entry => exact fun key e hGet => exists_pending_of_entry hTree hGet
  case modelField => exact fun m hm f hf => hBound (reachable_of_model hTree hm hf)
  case implements => exact fun m hm name hName => hBound (reachable_of_implements hTree hm hName)
  case interfaceField => exact fun i hi f hf => hBound (reachable_of_interface hTree hi hf)
  case returns =>
    intro o ho
    exact hBound (reachable_of_operation hTree ho (r := (o.route, o.returns)) List.mem_cons_self)
  case argument =>
    intro o ho a ha
    exact hBound (reachable_of_operation hTree ho
      (List.mem_cons_of_mem _ (List.mem_map.2 ⟨a, ha, rfl⟩)))
  case fieldResolver =>
    intro key r hGet
    obtain ⟨hParent, hType⟩ := reachable_of_fieldResolver hTree hGet
    exact ⟨hBound hParent, hBound hType⟩
  case root => exact fun kind name hRoot => contains_entries_of_root hTree hRoot

/-- In the ring every type is on the way to every other. -/
theorem closed_ring :
    Tree.ofDocument Sample.ringDocument = .ok Sample.ringTree
    ∧ Closed Sample.ringDocument Sample.ringTree
    ∧ Sample.ringTree.entries.keys = ["Any", "Middleware", "Node", "User"]
    ∧ Sample.ringTree.entries.contains "Query" = false := by
  have hClosed := closed_of_ofDocument Sample.ofDocument_ringDocument
  exact ⟨Sample.ofDocument_ringDocument, hClosed, rfl, hClosed.root .query "Query" rfl⟩

end ResolverScaffold.Walk
