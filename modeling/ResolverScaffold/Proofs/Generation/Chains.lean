import Mathlib
import ResolverScaffold.Proofs.Generation.Calls
import ResolverScaffold.Proofs.Generation.Keys

/-!
# The middleware of a route

The chains of operations and fields stand in one dictionary, by route, and those of
fields are put there last.  Two operations never have one route, nor do two
fields.  But the route of an operation starts with the word of its kind, whatever
its root is called, so a field of a type that is called like the word can have the
route of an operation.  The chain of the route is then that of the field, if it has
one (`get?_chainNames_of_both`).

`Sample.renamedDocument` has a root `Root` and a type `Query`, each with a field
`a`.
-/

namespace ResolverScaffold

open Walk (Drawn)

namespace Dispatch

variable {settings : Settings} {doc : Schema.Document} {tree : Tree}

/-- The names that have to run, if there are any. -/
def guards? (names : List String) : Option (List String) :=
  if names.isEmpty then none else some names

/-- The functions that some middleware names call. -/
def calls (settings : Settings) (names : List String) : List String :=
  names.map fun name => call settings .middleware (Stub.middlewareKey name)

/-- The chain of a resolver with some middleware: none, if the list is empty. -/
def chainOf (settings : Settings) (names : List String) : Option (List String) :=
  (guards? names).map (calls settings)

theorem guards?_eq_none_iff {names : List String} : guards? names = none ↔ names = [] := by
  simp [guards?]

theorem guards?_of_ne_nil {names : List String} (h : names ≠ []) : guards? names = some names := by
  simp [guards?, h]

theorem guards?_inj {names names' : List String} :
    guards? names = guards? names' ↔ names = names' := by
  cases names <;> cases names' <;> simp [guards?]

theorem calls_injective (settings : Settings) : Function.Injective (calls settings) := by
  refine List.map_injective_iff.2 fun name name' h => ?_
  have hChars := congrArg String.toList h
  simpa [call, Stub.middlewareKey, String.toList_inj] using hChars

/-! ### Chains are put under their routes -/

theorem get?_addChain (chains : Dict String (List String)) (entry : String × List String)
    (route : String) :
    (addChain chains entry).get? route
      = if entry.1 = route then (guards? entry.2).or (chains.get? route)
        else chains.get? route := by
  rw [addChain, guards?]
  by_cases hRoute : entry.1 = route
  · subst hRoute
    split <;> simp
  · rw [if_neg hRoute]
    split <;> simp [Ne.symm hRoute]

theorem get?_foldl_addChain_of_ne {entries : List (String × List String)} {route : String}
    (h : ∀ entry ∈ entries, entry.1 ≠ route) (chains : Dict String (List String)) :
    (entries.foldl addChain chains).get? route = chains.get? route := by
  induction entries generalizing chains with
  | nil => rfl
  | cons entry entries ih =>
    obtain ⟨hFirst, hRest⟩ := List.forall_mem_cons.1 h
    rw [List.foldl_cons, ih hRest, get?_addChain, if_neg hFirst]

/-- Where all entries of a route have the same names, these go before what was there. -/
theorem get?_foldl_addChain_of_mem {entries : List (String × List String)} {route : String}
    {names : List String} (h : (route, names) ∈ entries)
    (hSame : ∀ entry ∈ entries, entry.1 = route → entry.2 = names)
    (chains : Dict String (List String)) :
    (entries.foldl addChain chains).get? route = (guards? names).or (chains.get? route) := by
  induction entries generalizing chains with
  | nil => cases h
  | cons entry entries ih =>
    obtain ⟨hFirst, hRest⟩ := List.forall_mem_cons.1 hSame
    have hAdd : (addChain chains entry).get? route = chains.get? route
        ∨ (addChain chains entry).get? route = (guards? names).or (chains.get? route) := by
      rw [get?_addChain]
      split
      · rename_i hRoute
        exact .inr (by rw [hFirst hRoute])
      · exact .inl rfl
    rw [List.foldl_cons]
    by_cases hLater : (route, names) ∈ entries
    · rw [ih hLater hRest]
      rcases hAdd with hAdd | hAdd <;> rw [hAdd]
      rw [← Option.or_assoc, Option.or_self]
    · -- the entry is the last of the route
      obtain rfl : (route, names) = entry := (List.mem_cons.1 h).resolve_right hLater
      rw [get?_foldl_addChain_of_ne, get?_addChain, if_pos rfl]
      intro later hMem hRoute
      exact hLater (by rw [← hRoute, ← hRest later hMem hRoute]; exact hMem)

/-! ### Routes -/

theorem eq_of_append_dot_eq {a b a' b' : String} (ha : '.' ∉ a.toList) (ha' : '.' ∉ a'.toList)
    (h : a ++ "." ++ b = a' ++ "." ++ b') : a = a' ∧ b = b' := by
  have hChars := congrArg String.toList h
  simp only [String.toList_append, List.append_assoc] at hChars
  obtain ⟨hFront, hBack⟩ := Text.append_cons_inj ha ha' hChars
  exact ⟨String.toList_inj.1 hFront, String.toList_inj.1 hBack⟩

theorem dot_notMem_title (kind : OperationKind) : '.' ∉ kind.title.toList := by
  cases kind <;> decide

theorem title_inj {kind kind' : OperationKind} (h : kind.title = kind'.title) : kind = kind' := by
  cases kind <;> cases kind'
  case query.query => rfl
  case mutation.mutation => rfl
  all_goals exact absurd h (by decide)

theorem get?_operationsOf (hDrawn : Drawn doc tree) {o : Operation} (ho : o ∈ tree.operations) :
    (tree.operationsOf o.kind).get? o.name = some o := by
  rcases Tree.mem_operations_iff.1 ho with ⟨name, hGet⟩ | ⟨name, hGet⟩
  · obtain ⟨rfl, f, -, rfl⟩ := hDrawn.query name o hGet
    exact hGet
  · obtain ⟨rfl, f, -, rfl⟩ := hDrawn.mutation name o hGet
    exact hGet

/-- Two operations of a tree have different routes. -/
theorem eq_of_route_eq (hDrawn : Drawn doc tree) {o o' : Operation} (ho : o ∈ tree.operations)
    (ho' : o' ∈ tree.operations) (h : o.route = o'.route) : o = o' := by
  obtain ⟨hTitle, hName⟩ := eq_of_append_dot_eq (dot_notMem_title _) (dot_notMem_title _) h
  have hGet := get?_operationsOf hDrawn ho
  rw [title_inj hTitle, hName, get?_operationsOf hDrawn ho'] at hGet
  exact (Option.some.inj hGet).symm

section Named

variable (hNamed : ∀ d ∈ doc.definitions, d.Named) (hDrawn : Drawn doc tree)

include hNamed hDrawn

theorem dot_notMem_parent {r : FieldResolver} (hr : r ∈ tree.fieldResolvers.values) :
    '.' ∉ r.parent.toList := by
  obtain ⟨key, hGet⟩ := tree.fieldResolvers.mem_values_iff.1 hr
  obtain ⟨-, d, f, hAsks, rfl⟩ := hDrawn.fieldResolver key r hGet
  exact Schema.dot_notMem_of_isName (hNamed d (Schema.Table.mem_of_get? hAsks.defined)).1

/-- Two field resolvers of a tree have different routes. -/
theorem eq_of_routeOf_eq {r r' : FieldResolver} (hr : r ∈ tree.fieldResolvers.values)
    (hr' : r' ∈ tree.fieldResolvers.values) (h : routeOf r = routeOf r') : r = r' := by
  obtain ⟨hParent, hField⟩ := eq_of_append_dot_eq (dot_notMem_parent hNamed hDrawn hr)
    (dot_notMem_parent hNamed hDrawn hr') h
  obtain ⟨key, hGet⟩ := tree.fieldResolvers.mem_values_iff.1 hr
  obtain ⟨key', hGet'⟩ := tree.fieldResolvers.mem_values_iff.1 hr'
  have hKey : r.key = r'.key := by rw [FieldResolver.key, FieldResolver.key, hParent, hField]
  rw [← (hDrawn.fieldResolver key r hGet).1, hKey, (hDrawn.fieldResolver key' r' hGet').1,
    hGet'] at hGet
  exact (Option.some.inj hGet).symm

/-- A field has the route of an operation only if its type is called like the kind. -/
theorem eq_of_routeOf_eq_route {r : FieldResolver} (hr : r ∈ tree.fieldResolvers.values)
    {o : Operation} (h : routeOf r = o.route) : r.parent = o.kind.title ∧ r.field.name = o.name :=
  eq_of_append_dot_eq (dot_notMem_parent hNamed hDrawn hr) (dot_notMem_title _) h

/-! ### The chain of a route -/

theorem get?_chainNames_of_field {r : FieldResolver} (hr : r ∈ tree.fieldResolvers.values) :
    (chainNames tree).get? (routeOf r) = (guards? r.middleware).or
      (((tree.operations.map fun o => (o.route, o.middleware)).foldl addChain .empty).get?
        (routeOf r)) := by
  rw [chainNames, List.foldl_append]
  refine get?_foldl_addChain_of_mem (List.mem_map.2 ⟨r, hr, rfl⟩) ?_ _
  intro entry hEntry hRoute
  obtain ⟨r', hr', rfl⟩ := List.mem_map.1 hEntry
  rw [eq_of_routeOf_eq hNamed hDrawn hr' hr hRoute]

omit hNamed in
theorem get?_operationChains {o : Operation} (ho : o ∈ tree.operations) :
    ((tree.operations.map fun o => (o.route, o.middleware)).foldl addChain .empty).get? o.route
      = guards? o.middleware := by
  rw [get?_foldl_addChain_of_mem (List.mem_map.2 ⟨o, ho, rfl⟩), Dict.get?_empty, Option.or_none]
  intro entry hEntry hRoute
  obtain ⟨o', ho', rfl⟩ := List.mem_map.1 hEntry
  rw [eq_of_route_eq hDrawn ho' ho hRoute]

/-- **A route of both a field and an operation has the chain of the field, if it has one.** -/
theorem get?_chainNames_of_both {r : FieldResolver} (hr : r ∈ tree.fieldResolvers.values)
    {o : Operation} (ho : o ∈ tree.operations) (h : routeOf r = o.route) :
    (chainNames tree).get? o.route = (guards? r.middleware).or (guards? o.middleware) := by
  rw [← h, get?_chainNames_of_field hNamed hDrawn hr, h, get?_operationChains hDrawn ho]

omit hNamed in
theorem get?_chainNames_of_operation {o : Operation} (ho : o ∈ tree.operations)
    (h : ∀ r ∈ tree.fieldResolvers.values, routeOf r ≠ o.route) :
    (chainNames tree).get? o.route = guards? o.middleware := by
  rw [chainNames, List.foldl_append, get?_foldl_addChain_of_ne, get?_operationChains hDrawn ho]
  intro entry hEntry
  obtain ⟨r, hr, rfl⟩ := List.mem_map.1 hEntry
  exact h r hr

/-- An operation has its own chain unless a field of its route has another. -/
theorem get?_chainNames_route_iff {o : Operation} (ho : o ∈ tree.operations) :
    (chainNames tree).get? o.route = guards? o.middleware ↔
      ∀ r ∈ tree.fieldResolvers.values, routeOf r = o.route →
        r.middleware = [] ∨ r.middleware = o.middleware := by
  constructor
  · intro hChain r hr hRoute
    rw [get?_chainNames_of_both hNamed hDrawn hr ho hRoute] at hChain
    by_cases hNone : r.middleware = []
    · exact .inl hNone
    · rw [guards?_of_ne_nil hNone, Option.some_or, ← guards?_of_ne_nil hNone, guards?_inj] at hChain
      exact .inr hChain
  · intro hOwn
    by_cases hField : ∃ r ∈ tree.fieldResolvers.values, routeOf r = o.route
    · obtain ⟨r, hr, hRoute⟩ := hField
      rw [get?_chainNames_of_both hNamed hDrawn hr ho hRoute]
      rcases hOwn r hr hRoute with hNone | hSame
      · rw [guards?_eq_none_iff.2 hNone, Option.none_or]
      · rw [hSame, Option.or_self]
    · exact get?_chainNames_of_operation hDrawn ho fun r hr hRoute => hField ⟨r, hr, hRoute⟩

/-- A field has its own chain unless it has none and an operation of its route has one. -/
theorem get?_chainNames_routeOf_iff {r : FieldResolver} (hr : r ∈ tree.fieldResolvers.values) :
    (chainNames tree).get? (routeOf r) = guards? r.middleware ↔
      (r.middleware = [] → ∀ o ∈ tree.operations, o.route = routeOf r → o.middleware = []) := by
  constructor
  · intro hChain hNone o ho hRoute
    rw [← hRoute, get?_chainNames_of_both hNamed hDrawn hr ho hRoute.symm, hNone] at hChain
    exact guards?_eq_none_iff.1 hChain
  · intro hOwn
    rw [get?_chainNames_of_field hNamed hDrawn hr]
    by_cases hNone : r.middleware = []
    · rw [guards?_eq_none_iff.2 hNone, Option.none_or]
      by_cases hOperation : ∃ o ∈ tree.operations, o.route = routeOf r
      · obtain ⟨o, ho, hRoute⟩ := hOperation
        rw [← hRoute, get?_operationChains hDrawn ho, guards?_eq_none_iff, hOwn hNone o ho hRoute]
      · rw [get?_foldl_addChain_of_ne, Dict.get?_empty]
        intro entry hEntry hRoute
        obtain ⟨o, ho, rfl⟩ := List.mem_map.1 hEntry
        exact hOperation ⟨o, ho, hRoute⟩
    · rw [guards?_of_ne_nil hNone, Option.some_or]

end Named

theorem get?_chains_eq_iff {dispatch : Dispatch} (h : ofTree settings tree = .ok dispatch)
    {route : String} {names : List String} :
    dispatch.chains.get? route = chainOf settings names ↔
      (chainNames tree).get? route = guards? names := by
  obtain ⟨-, -, -, hChains⟩ := ofTree_eq_ok h
  rw [hChains, Dict.get?_mapValues]
  exact (Option.map_injective (calls_injective settings)).eq_iff

/-- The type of a field resolver is no operation root. -/
theorem rootOf_ne_parent (hTree : Tree.ofDocument doc = .ok tree) {r : FieldResolver}
    (hr : r ∈ tree.fieldResolvers.values) (kind : OperationKind) :
    Walk.rootOf doc kind ≠ some r.parent := by
  have hExplored := Walk.explored_of_ofDocument hTree
  obtain ⟨key, hGet⟩ := tree.fieldResolvers.mem_values_iff.1 hr
  obtain ⟨-, d, f, hAsks, rfl⟩ := (Walk.drawn_of_ofDocument hTree).fieldResolver key r hGet
  obtain ⟨-, hOpen⟩ := hAsks.annotated hExplored
  obtain ⟨-, hQuery, hMutation⟩ := hExplored.usable d.name hOpen.bound hOpen.notPrimitive
  cases kind with
  | query => exact fun hSame => hQuery (Option.some.inj hSame).symm
  | mutation => exact hMutation.symm

/-- **When a resolver runs its own middleware.**  An operation does not if a field of its route has
a chain of its own, and a field does not if it has no chain and an operation of its route has one.
The type of the field is then called like the kind of the operation, and the root is not. -/
theorem chains_own_iff {sources : List Schema.Source} {introspect : Introspector}
    {home : ModelHome} {places : List BindSource} {bound : Tree}
    (hLoad : Schema.Document.load sources = .ok doc) (hTree : Tree.ofDocument doc = .ok tree)
    (hBound : Autobind.bindAll introspect home places tree = .ok bound) (settings : Settings) :
    ∃ dispatch, ofTree settings bound = .ok dispatch
      ∧ (∀ o ∈ bound.operations,
        dispatch.chains.get? (o.kind.title ++ "." ++ o.name) = chainOf settings o.middleware ↔
          ∀ r ∈ bound.fieldResolvers.values, routeOf r = o.route →
            r.middleware = [] ∨ r.middleware = o.middleware)
      ∧ (∀ r ∈ bound.fieldResolvers.values,
        dispatch.chains.get? (r.parent ++ "." ++ r.field.name) = chainOf settings r.middleware ↔
          (r.middleware = [] → ∀ o ∈ bound.operations, o.route = routeOf r → o.middleware = []))
      ∧ ∀ o ∈ bound.operations, ∀ r ∈ bound.fieldResolvers.values, routeOf r = o.route →
        r.parent = o.kind.title ∧ r.field.name = o.name
          ∧ Walk.rootOf doc o.kind ≠ some o.kind.title := by
  have hNamed := Schema.Document.named_of_load hLoad
  obtain ⟨hDrawn, hDecided⟩ := Autobind.drawn_and_decided hTree hBound
  obtain ⟨dispatch, hDispatch⟩ := exists_dispatch hDrawn hDecided settings
  obtain ⟨listed, own, rfl, -⟩ := Autobind.bindAll_eq_ok hBound
  refine ⟨dispatch, hDispatch, fun o ho => ?_, fun r hr => ?_, fun o _ r hr hRoute => ?_⟩
  · exact (get?_chains_eq_iff hDispatch).trans (get?_chainNames_route_iff hNamed hDrawn ho)
  · exact (get?_chains_eq_iff hDispatch).trans (get?_chainNames_routeOf_iff hNamed hDrawn hr)
  · obtain ⟨hParent, hField⟩ := eq_of_routeOf_eq_route hNamed hDrawn hr hRoute
    exact ⟨hParent, hField, hParent ▸ rootOf_ne_parent hTree hr o.kind⟩

/-- The query of the ring runs its middleware, and no field has its route. -/
theorem chains_own_in_ring :
    Schema.Document.load Sample.ringSources = .ok Sample.ringDocument
    ∧ Tree.ofDocument Sample.ringDocument = .ok Sample.ringTree
    ∧ Autobind.bindAll Sample.noPackage Sample.ringHome [] Sample.ringTree = .ok Sample.ringBound
    ∧ ∀ settings, ∃ dispatch, ofTree settings Sample.ringBound = .ok dispatch
      ∧ dispatch.chains.get? "Query.user" = some [call settings .middleware "Middleware_auth"] := by
  refine ⟨Sample.load_ringSources, Sample.ofDocument_ringDocument, Sample.bindAll_ringTree,
    fun settings => ?_⟩
  obtain ⟨dispatch, hDispatch, hOperation, -, -⟩ := chains_own_iff Sample.load_ringSources
    Sample.ofDocument_ringDocument Sample.bindAll_ringTree settings
  have hRoutes : ∀ r ∈ Sample.ringBound.fieldResolvers.values, routeOf r ≠ "Query.user" := by decide
  refine ⟨dispatch, hDispatch, (hOperation ⟨.query, "user", Sample.ringQuery.description,
    [⟨"id", ⟨"ID", false, true⟩⟩], ⟨"User", false, false⟩, ["auth"]⟩ List.mem_cons_self).2 ?_⟩
  exact fun r hr hRoute => absurd hRoute (hRoutes r hr)

end Dispatch

/-! ### A type called `Query` beside the query root -/

namespace Sample

def renamedTexts : List String :=
  ["schema\x7bquery:Root\x7d",
   "type Root\x7b\"@middleware([\\\"auth\\\"])\"a:Int@lambda\x7d",
   "type Query\x7b\"@middleware([\\\"log\\\"])\"a:Int@lambda\x7d"]

def renamedSources : List Schema.Source := renamedTexts.map (⟨"schema.graphql", ·⟩)

def rootField : Schema.Field :=
  { askedField "a" ⟨"Int", false, false⟩ with description := some "@middleware([\"auth\"])" }

def typeField : Schema.Field :=
  { askedField "a" ⟨"Int", false, false⟩ with description := some "@middleware([\"log\"])" }

def renamedDefinitions : List Schema.Definition :=
  [{ objectNamed "Root" with fields := [rootField] },
   { objectNamed "Query" with fields := [typeField] }]

theorem nodup_renamed :
    ((Schema.Prelude.definitions ++ renamedDefinitions).map (·.name)).Nodup := by decide

def renamedDocument : Schema.Document := documentOf _ nodup_renamed "Root"

def renamedTree : Tree where
  entries := .ofList [("Query", ringModel "Query" [] [] typeField)]
  fieldResolvers := .ofList [("Query_a", ⟨"Query", Walk.field "Query" typeField, ["log"]⟩)]
  queries := .ofList
    [("a", ⟨.query, "a", rootField.description, [], ⟨"Int", false, false⟩, ["auth"]⟩)]
  mutations := .empty
  middleware := .ofList [("auth", ()), ("log", ())]
  bindings := .ofList [("Int", .primitive "Int" "i64"), ("Query", .pending "Query")]

def renamedBound : Tree :=
  { renamedTree with
    bindings := renamedTree.bindings.mapValues fun _ b => b.bind (.generated "crate::model") }

theorem load_renamedSources : Schema.Document.load renamedSources = .ok renamedDocument := by
  have hRead : ∀ e ∈ renamedTexts.zip
      (.roots ⟨some "Root", none, none⟩ :: renamedDefinitions.map Schema.Statement.define),
      Schema.Statement.readAll? "schema.graphql" false e.1 = some [e.2] := by
    simp only [renamedTexts, renamedDefinitions, List.map_cons, List.map_nil, List.zip_cons_cons,
      List.zip_nil_right, List.forall_mem_cons]
    refine ⟨?_, ?_, ?_, by simp⟩ <;> cbv
  exact Schema.Document.load_of_readAll? hRead rfl rfl

theorem names_rootField : Middleware.names rootField.description = ["auth"] := names_ringQuery

theorem names_typeField : Middleware.names typeField.description = ["log"] := by
  have hAt : Middleware.contentAt? "@middleware([\"log\"])".toList
      = some ("[\"log\"]".toList, []) := by decide
  have hRead : StringList.read? "[\"log\"]".toList = some ["log"] := by cbv
  exact Middleware.namesIn_of_contentAt? hAt hRead

theorem ofDocument_renamedDocument : Tree.ofDocument renamedDocument = .ok renamedTree := by
  have hSeeds : renamedDocument.definitions.flatMap (Walk.seedTasks renamedDocument)
      = [.need "Int" "Query.a", .operation .query rootField, .need "Query" "Query"] := rfl
  have hOperation : Walk.step renamedDocument
      (Walk.recordBinding .empty (.primitive "Int" "i64")) (.operation .query rootField)
      = .ok ({ renamedTree with
        entries := .empty, fieldResolvers := .empty, middleware := .ofList [("auth", ())]
        bindings := .ofList [("Int", .primitive "Int" "i64")] }, []) := by
    rw [Walk.step, Walk.operation, names_rootField]
    rfl
  have hField : Walk.step renamedDocument
      { renamedTree with fieldResolvers := .empty, middleware := .ofList [("auth", ())] }
      (.resolveField "Query" typeField) = .ok (renamedTree, []) := by
    rw [Walk.step, Walk.fieldResolver, names_typeField]
    rfl
  rw [Tree.ofDocument, hSeeds]
  refine (Walk.run_of_step rfl).trans ?_
  refine (Walk.run_of_step (hOperation :)).trans ?_
  iterate 2 refine (Walk.run_of_step rfl).trans ?_
  refine (Walk.run_of_step (hField :)).trans ?_
  show Walk.run renamedDocument renamedTree [] = .ok renamedTree
  rw [Walk.run]

theorem bindAll_renamedTree :
    Autobind.bindAll noPackage ringHome [] renamedTree = .ok renamedBound := rfl

end Sample

namespace Dispatch

/-- **The middleware of an operation can be skipped.**  The schema is accepted and its types are
bound, but under the route of the query, which `auth` has to guard, stands the chain of the field
`a` of the type `Query`. -/
theorem chain_of_field_stands_for_operation :
    Schema.Document.load Sample.renamedSources = .ok Sample.renamedDocument
    ∧ Tree.ofDocument Sample.renamedDocument = .ok Sample.renamedTree
    ∧ Autobind.bindAll Sample.noPackage Sample.ringHome [] Sample.renamedTree
      = .ok Sample.renamedBound
    ∧ ∀ settings, ∃ dispatch, ofTree settings Sample.renamedBound = .ok dispatch
      ∧ ∃ o ∈ Sample.renamedBound.operations, o.middleware = ["auth"]
        ∧ dispatch.chains.get? o.route = some [call settings .middleware "Middleware_log"]
        ∧ dispatch.chains.get? o.route ≠ chainOf settings o.middleware := by
  refine ⟨Sample.load_renamedSources, Sample.ofDocument_renamedDocument, Sample.bindAll_renamedTree,
    fun settings => ?_⟩
  obtain ⟨hDrawn, hDecided⟩ :=
    Autobind.drawn_and_decided Sample.ofDocument_renamedDocument Sample.bindAll_renamedTree
  obtain ⟨dispatch, hDispatch⟩ := exists_dispatch hDrawn hDecided settings
  have hChain : (chainNames Sample.renamedBound).get? "Query.a" = guards? ["log"] := rfl
  have hOther : guards? ["log"] ≠ guards? ["auth"] := by decide
  refine ⟨dispatch, hDispatch, _, List.mem_cons_self, rfl, ?_, ?_⟩
  · exact (get?_chains_eq_iff hDispatch).2 hChain
  · rw [Ne, get?_chains_eq_iff hDispatch]
    exact fun hSame => hOther (hChain.symm.trans hSame)

end Dispatch

end ResolverScaffold
