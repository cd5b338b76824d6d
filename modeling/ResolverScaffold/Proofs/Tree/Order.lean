import Mathlib
import ResolverScaffold.Proofs.Tree.FieldKeys

/-!
# The order of definitions

A walk goes through a schema in the order of its definitions, and that order shows
on its way: in which type is opened first, which error is met first and which of
two resolvers with one key is recorded last.  What it ends with can be said without
the walk: what is reachable, and what each definition offers.  None of that changes
when the definitions are rearranged (`Document.Rearranged`), except the order of
the unions that a model belongs to.

* `alike_of_rearranged`: the trees of two arrangements differ in no more than the
  order of what a model implements, if no two types share a key.
-/

namespace ResolverScaffold

/-! ### Two arrangements of one schema -/

namespace Schema.Document

/-- The same definitions, in another order, and the same roots. -/
structure Rearranged (doc doc' : Document) : Prop where
  definitions : doc.definitions.Perm doc'.definitions
  query : doc.query = doc'.query
  mutation : doc.mutation = doc'.mutation
  subscription : doc.subscription = doc'.subscription

namespace Rearranged

variable {doc doc' : Document}

theorem symm (h : doc.Rearranged doc') : doc'.Rearranged doc :=
  ⟨h.definitions.symm, h.query.symm, h.mutation.symm, h.subscription.symm⟩

theorem get?_eq (h : doc.Rearranged doc') (name : String) :
    doc.get? name = doc'.get? name := by
  refine Option.ext fun d => ?_
  rw [get?_eq_some_iff, get?_eq_some_iff, h.definitions.mem_iff]

theorem isOperationRoot_eq (h : doc.Rearranged doc') (name : String) :
    doc.isOperationRoot name = doc'.isOperationRoot name := by
  rw [isOperationRoot, isOperationRoot, h.query, h.mutation]

end Rearranged

end Schema.Document

/-! ### Trees that differ in order only -/

/-- Entries that differ in no more than the order of what a model implements. -/
inductive Entry.Alike : Entry → Entry → Prop
  | model (m : Model) {implements : List String} : m.implements.Perm implements →
      Alike (.model m) (.model { m with implements })
  | other (e : Entry) : Alike e e

/-- Trees that differ in no more than the order of what a model implements. -/
structure Tree.Alike (tree tree' : Tree) : Prop where
  entries : ∀ name, Option.Rel Entry.Alike (tree.entries.get? name) (tree'.entries.get? name)
  fieldResolvers : tree.fieldResolvers = tree'.fieldResolvers
  queries : tree.queries = tree'.queries
  mutations : tree.mutations = tree'.mutations
  middleware : tree.middleware = tree'.middleware
  bindings : tree.bindings = tree'.bindings

namespace Walk

open Schema (Document Definition)
open FieldResolver (keyOf)

variable {doc doc' : Document} {tree tree' : Tree}

/-! ### What is reachable does not depend on the order -/

theorem rootOf_eq (h : doc.Rearranged doc') (kind : OperationKind) :
    rootOf doc kind = rootOf doc' kind := by
  cases kind with
  | query => exact congrArg some h.query
  | mutation => exact h.mutation

theorem IsOperation.rearranged {kind : OperationKind} {f : Schema.Field}
    (hf : IsOperation doc kind f) (h : doc.Rearranged doc') : IsOperation doc' kind f := by
  obtain ⟨d, hd, hRoot, hMem, hAsks⟩ := hf
  exact ⟨d, h.definitions.mem_iff.1 hd, hRoot.trans (rootOf_eq h kind), hMem, hAsks⟩

theorem isRoot_iff (h : doc.Rearranged doc') {name : String} :
    IsRoot doc name ↔ IsRoot doc' name := by
  rw [IsRoot, IsRoot, h.query, h.mutation, h.subscription]

theorem Seed.rearranged {name : String} (hSeed : Seed doc name) (h : doc.Rearranged doc') :
    Seed doc' name := by
  cases hSeed with
  | leaf hd hRoot hKind hBuiltin =>
    exact .leaf (h.definitions.mem_iff.1 hd) (mt (isRoot_iff h).2 hRoot) hKind hBuiltin
  | annotated hd hRoot hKind hAsks =>
    exact .annotated (h.definitions.mem_iff.1 hd) (mt (isRoot_iff h).2 hRoot) hKind hAsks
  | operation hOperation hName => exact .operation (hOperation.rearranged h) hName

theorem Refers.rearranged {d : Definition} {name : String} (hRefers : Refers doc d name)
    (h : doc.Rearranged doc') : Refers doc' d name := by
  cases hRefers with
  | field hKind hf => exact .field hKind hf
  | implements hKind hName => exact .implements hKind hName
  | union hKind hu hUnion hMem => exact .union hKind (h.definitions.mem_iff.1 hu) hUnion hMem
  | implementor hKind ho hObject hMem hRoot =>
    exact .implementor hKind (h.definitions.mem_iff.1 ho) hObject hMem
      ((h.isOperationRoot_eq _).symm.trans hRoot)
  | member hKind hName => exact .member hKind hName

theorem Reachable.rearranged {name : String} (hName : Reachable doc name)
    (h : doc.Rearranged doc') : Reachable doc' name := by
  induction hName with
  | seed hSeed => exact .seed (hSeed.rearranged h)
  | edge _ hEdge ih =>
    obtain ⟨hNot, d, hGet, hRefers⟩ := hEdge
    exact .edge ih ⟨hNot, d, (h.get?_eq _).symm.trans hGet, hRefers.rearranged h⟩

theorem reachable_iff (h : doc.Rearranged doc') {name : String} :
    Reachable doc name ↔ Reachable doc' name :=
  ⟨fun hName => hName.rearranged h,
    fun hName => hName.rearranged h.symm⟩

theorem Annotated.rearranged {d : Definition} {f : Schema.Field} (hf : Annotated doc d f)
    (h : doc.Rearranged doc') : Annotated doc' d f :=
  { hf with
    reachable := hf.reachable.rearranged h
    defined := (h.get?_eq _).symm.trans hf.defined }

theorem annotated_iff (h : doc.Rearranged doc') {d : Definition}
    {f : Schema.Field} : Annotated doc d f ↔ Annotated doc' d f :=
  ⟨fun hf => hf.rearranged h, fun hf => hf.rearranged h.symm⟩

theorem usable_iff (h : doc.Rearranged doc') {name : String} :
    Usable doc name ↔ Usable doc' name := by
  rw [Usable, Usable, h.get?_eq, h.query, h.mutation]

theorem exists_tree_iff_of_rearranged (h : doc.Rearranged doc') :
    (∃ tree, Tree.ofDocument doc = .ok tree) ↔ ∃ tree, Tree.ofDocument doc' = .ok tree := by
  rw [exists_tree_iff, exists_tree_iff]
  exact forall_congr' fun name => imp_congr (reachable_iff h) (usable_iff h)

/-! ### Entries -/

theorem alike_entry (h : doc.Rearranged doc') (d : Definition) :
    (entry doc d).Alike (entry doc' d) := by
  have hParents : (parents doc d).Perm (parents doc' d) :=
    List.Perm.append_left _ ((h.definitions.filter _).map _)
  rw [entry, entry]
  split
  · exact .model _ hParents
  · exact .model _ hParents
  all_goals exact .other _

theorem contains_entries_iff (hTree : Tree.ofDocument doc = .ok tree) {name : String} :
    tree.entries.contains name = true ↔ Reachable doc name ∧ primitive? name = none := by
  rw [(explored_of_ofDocument hTree).entered, contains_bindings_iff hTree]

theorem alike_entries (h : doc.Rearranged doc')
    (hTree : Tree.ofDocument doc = .ok tree) (hTree' : Tree.ofDocument doc' = .ok tree')
    (name : String) :
    Option.Rel Entry.Alike (tree.entries.get? name) (tree'.entries.get? name) := by
  have hBoth : tree.entries.contains name = true ↔ tree'.entries.contains name = true := by
    rw [contains_entries_iff hTree, contains_entries_iff hTree', reachable_iff h]
  cases hGet : tree.entries.get? name with
  | none =>
    rw [tree'.entries.get?_eq_none_iff.2 (mt hBoth.2 (tree.entries.get?_eq_none_iff.1 hGet))]
    exact .none
  | some e =>
    obtain ⟨e', hGet'⟩ := tree'.entries.contains_eq_true_iff.1
      (hBoth.1 (tree.entries.contains_eq_true_iff.2 ⟨e, hGet⟩))
    obtain ⟨-, d, hd, rfl⟩ := (drawn_of_ofDocument hTree).entry name e hGet
    obtain ⟨-, d', hd', rfl⟩ := (drawn_of_ofDocument hTree').entry name e' hGet'
    rw [h.get?_eq, hd'] at hd
    cases hd
    rw [hGet']
    exact .some (alike_entry h d)

/-! ### Bindings -/

/-- The binding that a name gets when it is met. -/
def bindingOf (name : String) : Binding :=
  match primitive? name with
  | some rustType => .primitive name rustType
  | none => .pending name

theorem Steps.bindings {task : Task} {added : List Task} (hSteps : Steps doc tree task tree' added)
    (hInv : ∀ name b, tree.bindings.get? name = some b → b = bindingOf name) :
    ∀ name b, tree'.bindings.get? name = some b → b = bindingOf name := by
  have hRecord : ∀ name, ∀ name' b,
      (tree.bindings.insert name (bindingOf name)).get? name' = some b → b = bindingOf name' := by
    intro name name' b hGet
    rw [Dict.get?_insert] at hGet
    split at hGet
    · rename_i hName
      cases hGet
      rw [hName]
    · exact hInv name' b hGet
  cases hSteps with
  | known _ => exact hInv
  | @primitive name _ rustType _ hPrimitive =>
    have hBinding : bindingOf name = .primitive name rustType := by rw [bindingOf, hPrimitive]
    have hName := hRecord name
    rw [hBinding] at hName
    exact hName
  | @opened d _ _ hNot _ _ =>
    have hBinding : bindingOf d.name = .pending d.name := by rw [bindingOf, hNot]
    have hName := hRecord d.name
    rw [hBinding] at hName
    exact hName
  | field => exact hInv
  | operation =>
    rw [bindings_recordOperation]
    exact hInv

/-- A name is bound as a primitive, or its binding is pending. -/
theorem eq_bindingOf (hTree : Tree.ofDocument doc = .ok tree) {name : String} {b : Binding}
    (hGet : tree.bindings.get? name = some b) : b = bindingOf name :=
  run_induction (P := fun tree _ => ∀ name b, tree.bindings.get? name = some b → b = bindingOf name)
    (fun _ _ _ _ _ hInv hSteps => hSteps.bindings hInv) _ _ (fun name b hGet => by cases hGet)
    hTree name b hGet

theorem bindings_eq_of_rearranged (h : doc.Rearranged doc')
    (hTree : Tree.ofDocument doc = .ok tree) (hTree' : Tree.ofDocument doc' = .ok tree') :
    tree.bindings = tree'.bindings := by
  refine Dict.ext_get? fun name => ?_
  have hBoth : tree.bindings.contains name = true ↔ tree'.bindings.contains name = true := by
    rw [contains_bindings_iff hTree, contains_bindings_iff hTree', reachable_iff h]
  cases hGet : tree.bindings.get? name with
  | none =>
    rw [tree'.bindings.get?_eq_none_iff.2 (mt hBoth.2 (tree.bindings.get?_eq_none_iff.1 hGet))]
  | some b =>
    obtain ⟨b', hGet'⟩ := tree'.bindings.contains_eq_true_iff.1
      (hBoth.1 (tree.bindings.contains_eq_true_iff.2 ⟨b, hGet⟩))
    rw [hGet', eq_bindingOf hTree hGet, eq_bindingOf hTree' hGet']

/-! ### Operations, middleware and field resolvers -/

/-- A schema has one query root and one mutation root, wherever they stand. -/
theorem offered_eq (h : doc.Rearranged doc') (kind : OperationKind) :
    offered doc kind = offered doc' kind := by
  have hOpens : opensAs doc kind = opensAs doc' kind := by
    funext d
    cases kind <;> simp only [opensAs, h.query, h.mutation]
  have hName : ∀ d, opensAs doc kind d = true → some d.name = rootOf doc kind := by
    intro d hOpen
    cases kind with
    | query => exact congrArg some (of_decide_eq_true hOpen)
    | mutation => exact (of_decide_eq_true hOpen).2
  have hRoots : doc.definitions.filter (opensAs doc kind)
      = doc'.definitions.filter (opensAs doc kind) := by
    -- all of them have one name, so any two are equal and every order is the same
    have hAny : ∀ l : List Definition, l.Pairwise fun _ _ => True :=
      fun _ => List.pairwise_of_forall fun _ _ => trivial
    refine List.Perm.eq_of_pairwise ?_ (hAny _) (hAny _) (h.definitions.filter _)
    intro d e hd he _ _
    obtain ⟨hd, hOpen⟩ := List.mem_filter.1 hd
    obtain ⟨he, hOpen'⟩ := List.mem_filter.1 he
    refine Document.eq_of_name_eq hd (h.definitions.mem_iff.2 he) ?_
    exact Option.some.inj ((hName d hOpen).trans (hName e hOpen').symm)
  rw [offered, hRoots, hOpens, offered]

theorem operationsOf_eq_of_rearranged (h : doc.Rearranged doc')
    (hTree : Tree.ofDocument doc = .ok tree) (hTree' : Tree.ofDocument doc' = .ok tree')
    (kind : OperationKind) : tree.operationsOf kind = tree'.operationsOf kind := by
  rw [operationsOf_eq hTree, operationsOf_eq hTree', offered_eq h]

theorem middleware_eq_of_rearranged (h : doc.Rearranged doc')
    (hTree : Tree.ofDocument doc = .ok tree) (hTree' : Tree.ofDocument doc' = .ok tree') :
    tree.middleware = tree'.middleware := by
  refine Dict.ext_get? fun name => Option.ext fun _ => ?_
  have hContains : ∀ set : NameSet, set.get? name = some () ↔ set.contains name = true := by
    intro set
    rw [set.contains_eq_true_iff]
    exact ⟨fun hGet => ⟨(), hGet⟩, fun ⟨_, hGet⟩ => hGet⟩
  rw [hContains, hContains, contains_middleware_iff hTree, contains_middleware_iff hTree']
  simp only [offered_eq h, annotated_iff h]

/-- Where no two types share a key, the order does not decide who takes it. -/
theorem fieldResolvers_eq_of_rearranged (h : doc.Rearranged doc')
    (hApart : ∀ d f e g, Annotated doc d f → Annotated doc e g →
      keyOf d.name f.name = keyOf e.name g.name → d.name = e.name)
    (hTree : Tree.ofDocument doc = .ok tree) (hTree' : Tree.ofDocument doc' = .ok tree') :
    tree.fieldResolvers = tree'.fieldResolvers := by
  refine Dict.ext_get? fun key => ?_
  by_cases hKey : ∃ d f, Annotated doc d f ∧ keyOf d.name f.name = key
  · obtain ⟨d, f, hf, rfl⟩ := hKey
    have hOpen' := (hf.rearranged h).isOpen hTree'
    rw [get?_fieldResolvers hTree (hf.isOpen hTree) fun e g hg hSame => hApart e g d f hg hf hSame,
      get?_fieldResolvers hTree' hOpen' fun e g hg hSame =>
        hApart e g d f ((annotated_iff h).2 hg) hf hSame]
  · have hNone : tree.fieldResolvers.get? key = none := by
      rw [Dict.get?_eq_none_iff, contains_fieldResolvers_iff hTree]
      exact hKey
    have hNone' : tree'.fieldResolvers.get? key = none := by
      rw [Dict.get?_eq_none_iff, contains_fieldResolvers_iff hTree']
      simpa only [annotated_iff h] using hKey
    rw [hNone, hNone']

/-- **The trees of two arrangements of a schema are alike.** -/
theorem alike_of_rearranged (h : doc.Rearranged doc')
    (hApart : ∀ d f e g, Annotated doc d f → Annotated doc e g →
      keyOf d.name f.name = keyOf e.name g.name → d.name = e.name)
    (hTree : Tree.ofDocument doc = .ok tree) (hTree' : Tree.ofDocument doc' = .ok tree') :
    tree.Alike tree' where
  entries := alike_entries h hTree hTree'
  fieldResolvers := fieldResolvers_eq_of_rearranged h hApart hTree hTree'
  queries := operationsOf_eq_of_rearranged h hTree hTree' .query
  mutations := operationsOf_eq_of_rearranged h hTree hTree' .mutation
  middleware := middleware_eq_of_rearranged h hTree hTree'
  bindings := bindings_eq_of_rearranged h hTree hTree'

end Walk

end ResolverScaffold
