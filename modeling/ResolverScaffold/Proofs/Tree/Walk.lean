import ResolverScaffold.Proofs.Dict
import ResolverScaffold.Tree.Walk

/-!
# What the walk records

`Steps` says what a task can do to a tree, and `run_induction` carries what every
task keeps through the whole walk.

* `Drawn doc tree`: whatever a tree holds was drawn from the schema.  Entries and
  resolvers stand under their own names, and a field resolver belongs to an entry
  that has the field.
* `drawn_of_ofDocument`: the tree of a schema is drawn from it.
* `guarded_of_ofDocument`: the middleware that a resolver names is in the tree.
-/

namespace ResolverScaffold

theorem Tree.mem_models_iff {tree : Tree} {m : Model} :
    m ∈ tree.models ↔ ∃ name, tree.entries.get? name = some (.model m) := by
  rw [Tree.models, List.mem_filterMap]
  constructor
  · rintro ⟨e, he, hModel⟩
    obtain ⟨name, hGet⟩ := tree.entries.mem_values_iff.1 he
    cases e <;> simp [Entry.model?] at hModel
    subst hModel
    exact ⟨name, hGet⟩
  · rintro ⟨name, hGet⟩
    exact ⟨.model m, tree.entries.mem_values_iff.2 ⟨name, hGet⟩, rfl⟩

theorem Tree.mem_operations_iff {tree : Tree} {o : Operation} :
    o ∈ tree.operations ↔ (∃ name, tree.queries.get? name = some o)
      ∨ ∃ name, tree.mutations.get? name = some o := by
  rw [Tree.operations, List.mem_append, Dict.mem_values_iff, Dict.mem_values_iff]

theorem Tree.mem_interfaces_iff {tree : Tree} {i : Interface} :
    i ∈ tree.interfaces ↔ ∃ name, tree.entries.get? name = some (.interface i) := by
  rw [Tree.interfaces, List.mem_filterMap]
  constructor
  · rintro ⟨e, he, hInterface⟩
    obtain ⟨name, hGet⟩ := tree.entries.mem_values_iff.1 he
    cases e <;> simp [Entry.interface?] at hInterface
    subst hInterface
    exact ⟨name, hGet⟩
  · rintro ⟨name, hGet⟩
    exact ⟨.interface i, tree.entries.mem_values_iff.2 ⟨name, hGet⟩, rfl⟩

namespace Walk

open Schema (Document Definition)

variable {doc : Document}

/-! ### One task -/

/-- What a task does to a tree, and the tasks it adds. -/
inductive Steps (doc : Document) (tree : Tree) : Task → Tree → List Task → Prop
  | known {name referencedBy : String} : tree.bindings.contains name = true →
      Steps doc tree (.need name referencedBy) tree []
  | primitive {name referencedBy rustType : String} : tree.bindings.contains name = false →
      primitive? name = some rustType →
      Steps doc tree (.need name referencedBy) (recordBinding tree (.primitive name rustType)) []
  | opened {d : Definition} {referencedBy : String} : tree.bindings.contains d.name = false →
      primitive? d.name = none → doc.get? d.name = some d → doc.isOperationRoot d.name = false →
      Steps doc tree (.need d.name referencedBy) (recordDefinition doc tree d) (needs doc d)
  | field {parent : String} {f : Schema.Field} :
      Steps doc tree (.resolveField parent f) (recordField tree (fieldResolver parent f)) []
  | operation {kind : OperationKind} {f : Schema.Field} :
      Steps doc tree (.operation kind f) (recordOperation tree (Walk.operation kind f)) []

theorem steps_of_step {tree tree' : Tree} {task : Task} {added : List Task}
    (h : step doc tree task = .ok (tree', added)) : Steps doc tree task tree' added := by
  cases task with
  | need name referencedBy =>
    rw [step] at h
    split at h
    · rename_i hKnown
      cases h
      exact .known hKnown
    · rename_i hNew
      rw [Bool.not_eq_true] at hNew
      split at h
      · rename_i rustType hPrimitive
        cases h
        exact .primitive hNew hPrimitive
      · rename_i hNot
        split at h
        · cases h
        · rename_i d hGet
          split at h
          · cases h
          · rename_i hRoot
            cases h
            have hName := Schema.Table.name_of_get? hGet
            subst hName
            exact .opened hNew hNot hGet (by simpa using hRoot)
  | resolveField parent f =>
    cases h
    exact .field
  | operation kind f =>
    cases h
    exact .operation

/-! ### All tasks -/

/-- **What every task keeps, the walk keeps.** -/
theorem run_induction {P : Tree → List Task → Prop}
    (hStep : ∀ tree task rest tree' added, P tree (task :: rest) →
      Steps doc tree task tree' added → P tree' (added ++ rest)) :
    ∀ (tree : Tree) (tasks : List Task) {final : Tree}, P tree tasks →
      run doc tree tasks = .ok final → P final [] := by
  intro tree tasks
  fun_induction run doc tree tasks with
  | case1 tree =>
    intro final hInv h
    cases h
    exact hInv
  | case2 tree task rest e hFail => intro final _ h; cases h
  | case3 tree task rest tree' added hOk ih =>
    intro final hInv h
    exact ih (hStep tree task rest tree' added hInv (steps_of_step hOk)) h

/-- A walk that fails comes to a task that fails, with all that the tasks before it keep. -/
theorem exists_step_eq_error {P : Tree → List Task → Prop}
    (hStep : ∀ tree task rest tree' added, P tree (task :: rest) →
      Steps doc tree task tree' added → P tree' (added ++ rest)) :
    ∀ (tree : Tree) (tasks : List Task) {e : WalkError}, P tree tasks →
      run doc tree tasks = .error e →
      ∃ tree' task rest, P tree' (task :: rest) ∧ step doc tree' task = .error e := by
  intro tree tasks
  fun_induction run doc tree tasks with
  | case1 tree => intro e _ h; cases h
  | case2 tree task rest e hFail =>
    intro e' hInv h
    cases h
    exact ⟨tree, task, rest, hInv, hFail⟩
  | case3 tree task rest tree' added hOk ih =>
    intro e hInv h
    exact ih (hStep tree task rest tree' added hInv (steps_of_step hOk)) h

theorem run_of_step {tree tree' : Tree} {task : Task} {rest added : List Task}
    (h : step doc tree task = .ok (tree', added)) :
    run doc tree (task :: rest) = run doc tree' (added ++ rest) := by
  rw [run]
  split
  · rename_i e hFail
    rw [h] at hFail
    cases hFail
  · rename_i hOk
    rw [h] at hOk
    cases hOk
    rfl

/-! ### What is recorded -/

@[simp] theorem entries_recordOperation (tree : Tree) (o : Operation) :
    (recordOperation tree o).entries = tree.entries := by
  rw [recordOperation]; cases o.kind <;> rfl

@[simp] theorem bindings_recordOperation (tree : Tree) (o : Operation) :
    (recordOperation tree o).bindings = tree.bindings := by
  rw [recordOperation]; cases o.kind <;> rfl

@[simp] theorem fieldResolvers_recordOperation (tree : Tree) (o : Operation) :
    (recordOperation tree o).fieldResolvers = tree.fieldResolvers := by
  rw [recordOperation]; cases o.kind <;> rfl

theorem queries_recordOperation (tree : Tree) (o : Operation) :
    (recordOperation tree o).queries
      = match o.kind with
        | .query => tree.queries.insert o.name o
        | .mutation => tree.queries := by
  rw [recordOperation]; cases o.kind <;> rfl

theorem mutations_recordOperation (tree : Tree) (o : Operation) :
    (recordOperation tree o).mutations
      = match o.kind with
        | .query => tree.mutations
        | .mutation => tree.mutations.insert o.name o := by
  rw [recordOperation]; cases o.kind <;> rfl

theorem middleware_recordOperation (tree : Tree) (o : Operation) :
    (recordOperation tree o).middleware = o.middleware.foldl NameSet.add tree.middleware := by
  rw [recordOperation]; cases o.kind <;> rfl

/-! ### Drawn from the schema -/

/-- Whether types of a kind are recorded with fields. -/
def recordsFields : Schema.Kind → Bool
  | .object | .input | .interface => true
  | .union | .enum | .scalar => false

/-- A field that asks for a resolver, of a definition that is in the tree. -/
structure AsksIn (doc : Document) (tree : Tree) (d : Definition) (f : Schema.Field) : Prop where
  mem : f ∈ d.fields
  asks : f.hasResolver = true
  hasFields : recordsFields d.kind = true
  defined : doc.get? d.name = some d
  entered : tree.entries.get? d.name = some (entry doc d)

/-- The name of the root of a kind of operations. -/
def rootOf (doc : Document) : OperationKind → Option String
  | .query => some doc.query
  | .mutation => doc.mutation

/-- A field of a root that asks for a resolver. -/
def IsOperation (doc : Document) (kind : OperationKind) (f : Schema.Field) : Prop :=
  ∃ d ∈ doc.definitions, some d.name = rootOf doc kind ∧ f ∈ d.fields ∧ f.hasResolver = true

/-- The tree holds what was drawn from the schema, under its own names. -/
structure Drawn (doc : Document) (tree : Tree) : Prop where
  entry : ∀ name e, tree.entries.get? name = some e →
    tree.bindings.contains name = true ∧ ∃ d, doc.get? name = some d ∧ e = Walk.entry doc d
  fieldResolver : ∀ key r, tree.fieldResolvers.get? key = some r →
    r.key = key ∧ ∃ d f, AsksIn doc tree d f ∧ r = Walk.fieldResolver d.name f
  query : ∀ name o, tree.queries.get? name = some o →
    o.name = name ∧ ∃ f, IsOperation doc .query f ∧ o = Walk.operation .query f
  mutation : ∀ name o, tree.mutations.get? name = some o →
    o.name = name ∧ ∃ f, IsOperation doc .mutation f ∧ o = Walk.operation .mutation f

/-- A task that fits the tree: what it records can be drawn from the schema. -/
def Task.Fits (doc : Document) (tree : Tree) : Task → Prop
  | .need _ _ => True
  | .resolveField parent f => ∃ d, AsksIn doc tree d f ∧ parent = d.name
  | .operation kind f => IsOperation doc kind f

theorem drawn_empty (doc : Document) : Drawn doc .empty where
  entry name e h := by simp [Tree.empty] at h
  fieldResolver key r h := by simp [Tree.empty] at h
  query name o h := by simp [Tree.empty] at h
  mutation name o h := by simp [Tree.empty] at h

/-- An entry of the schema stays what it is when a definition is recorded. -/
theorem AsksIn.recordDefinition {tree : Tree} {d : Definition} {f : Schema.Field}
    (h : AsksIn doc tree d f) {opened : Definition} (hGet : doc.get? opened.name = some opened) :
    AsksIn doc (recordDefinition doc tree opened) d f := by
  refine { h with entered := ?_ }
  show (tree.entries.insert opened.name (entry doc opened)).get? d.name = some (entry doc d)
  rw [Dict.get?_insert]
  split
  · rename_i hSame
    have hDefined := h.defined
    rw [hSame, hGet, Option.some.injEq] at hDefined
    rw [hDefined]
  · exact h.entered

theorem AsksIn.congr {tree tree' : Tree} {d : Definition} {f : Schema.Field}
    (h : AsksIn doc tree d f) (hEntries : tree'.entries = tree.entries) : AsksIn doc tree' d f :=
  { h with entered := by rw [hEntries]; exact h.entered }

/-- The tasks of a definition fit once it is recorded. -/
theorem fits_of_mem_needs {tree : Tree} {d : Definition} (hGet : doc.get? d.name = some d)
    {task : Task} (h : task ∈ needs doc d) : task.Fits doc (recordDefinition doc tree d) := by
  have hFields : recordsFields d.kind = true → task ∈ fieldTasks d →
      task.Fits doc (recordDefinition doc tree d) := by
    intro hKind hTask
    obtain ⟨f, hf, hTask⟩ := List.mem_flatMap.1 hTask
    rcases List.mem_cons.1 hTask with rfl | hTask
    · trivial
    · split at hTask
      · rename_i hAsks
        rw [List.mem_singleton] at hTask
        subst hTask
        refine ⟨d, ⟨hf, hAsks, hKind, hGet, ?_⟩, rfl⟩
        show (tree.entries.insert d.name (entry doc d)).get? d.name = some (entry doc d)
        simp
      · simp at hTask
  have hNeed : ∀ names : List String, task ∈ names.map (Task.need · d.name) →
      task.Fits doc (recordDefinition doc tree d) := by
    intro names hTask
    obtain ⟨name, -, rfl⟩ := List.mem_map.1 hTask
    trivial
  rw [needs] at h
  split at h
  · rename_i hKind
    exact (List.mem_append.1 h).elim (hFields (by rw [hKind]; rfl)) (hNeed _)
  · rename_i hKind
    exact (List.mem_append.1 h).elim (hFields (by rw [hKind]; rfl)) (hNeed _)
  · rename_i hKind
    exact (List.mem_append.1 h).elim (hFields (by rw [hKind]; rfl)) (hNeed _)
  · exact hNeed _ h
  · simp at h
  · simp at h

theorem Drawn.recordBinding {tree : Tree} (h : Drawn doc tree) (b : Binding) :
    Drawn doc (recordBinding tree b) where
  entry name e hGet := by
    obtain ⟨hBound, hDrawn⟩ := h.entry name e hGet
    rw [contains_recordBinding, hBound]
    exact ⟨Bool.or_true _, hDrawn⟩
  fieldResolver key r hGet := by
    obtain ⟨hKey, d, f, hAsks, hr⟩ := h.fieldResolver key r hGet
    exact ⟨hKey, d, f, hAsks.congr rfl, hr⟩
  query := h.query
  mutation := h.mutation

theorem Drawn.recordDefinition {tree : Tree} (h : Drawn doc tree) {d : Definition}
    (hGet : doc.get? d.name = some d) : Drawn doc (recordDefinition doc tree d) where
  entry name e hEntry := by
    change (tree.entries.insert d.name (Walk.entry doc d)).get? name = some e at hEntry
    show (Walk.recordBinding tree (.pending d.name)).bindings.contains name = true ∧ _
    rw [contains_recordBinding]
    rw [Dict.get?_insert] at hEntry
    split at hEntry
    · rename_i hName
      cases hEntry
      subst hName
      exact ⟨by simp [Binding.pending], d, hGet, rfl⟩
    · obtain ⟨hBound, hDrawn⟩ := h.entry name e hEntry
      rw [hBound]
      exact ⟨Bool.or_true _, hDrawn⟩
  fieldResolver key r hField := by
    obtain ⟨hKey, d', f, hAsks, hr⟩ := h.fieldResolver key r hField
    exact ⟨hKey, d', f, hAsks.recordDefinition hGet, hr⟩
  query := h.query
  mutation := h.mutation

theorem Drawn.recordField {tree : Tree} (h : Drawn doc tree) {d : Definition} {f : Schema.Field}
    (hAsks : AsksIn doc tree d f) : Drawn doc (recordField tree (Walk.fieldResolver d.name f)) where
  entry := h.entry
  fieldResolver key r hField := by
    change (tree.fieldResolvers.insert (Walk.fieldResolver d.name f).key _).get? key = some r
      at hField
    rw [Dict.get?_insert] at hField
    split at hField
    · rename_i hKey
      cases hField
      exact ⟨hKey.symm, d, f, hAsks.congr rfl, rfl⟩
    · obtain ⟨hKey, d', f', hAsks', hr⟩ := h.fieldResolver key r hField
      exact ⟨hKey, d', f', hAsks'.congr rfl, hr⟩
  query := h.query
  mutation := h.mutation

theorem Drawn.recordOperation {tree : Tree} (h : Drawn doc tree) {kind : OperationKind}
    {f : Schema.Field} (hOperation : IsOperation doc kind f) :
    Drawn doc (recordOperation tree (Walk.operation kind f)) where
  entry := by
    rw [entries_recordOperation, bindings_recordOperation]
    exact h.entry
  fieldResolver key r hField := by
    rw [fieldResolvers_recordOperation] at hField
    obtain ⟨hKey, d, f', hAsks, hr⟩ := h.fieldResolver key r hField
    exact ⟨hKey, d, f', hAsks.congr (entries_recordOperation ..), hr⟩
  query name o hGet := by
    rw [queries_recordOperation] at hGet
    cases kind with
    | mutation => exact h.query name o hGet
    | query =>
      change (tree.queries.insert f.name (Walk.operation .query f)).get? name = some o at hGet
      rw [Dict.get?_insert] at hGet
      split at hGet
      · rename_i hName
        cases hGet
        exact ⟨hName.symm, f, hOperation, rfl⟩
      · exact h.query name o hGet
  mutation name o hGet := by
    rw [mutations_recordOperation] at hGet
    cases kind with
    | query => exact h.mutation name o hGet
    | mutation =>
      change (tree.mutations.insert f.name (Walk.operation .mutation f)).get? name = some o at hGet
      rw [Dict.get?_insert] at hGet
      split at hGet
      · rename_i hName
        cases hGet
        exact ⟨hName.symm, f, hOperation, rfl⟩
      · exact h.mutation name o hGet

/-- Tasks go on fitting where the entries they need are kept. -/
theorem Task.Fits.mono {tree tree' : Tree} {task : Task} (h : task.Fits doc tree)
    (hKeep : ∀ d f, AsksIn doc tree d f → AsksIn doc tree' d f) : task.Fits doc tree' := by
  cases task with
  | need name referencedBy => trivial
  | resolveField parent f =>
    obtain ⟨d, hAsks, hParent⟩ := h
    exact ⟨d, hKeep d f hAsks, hParent⟩
  | operation kind f => exact h

/-- A task keeps the tree drawn and the tasks that are left fitting. -/
theorem Steps.drawn {tree tree' : Tree} {task : Task} {rest added : List Task}
    (hSteps : Steps doc tree task tree' added)
    (hInv : Drawn doc tree ∧ ∀ t ∈ task :: rest, t.Fits doc tree) :
    Drawn doc tree' ∧ ∀ t ∈ added ++ rest, t.Fits doc tree' := by
  obtain ⟨hDrawn, hFits⟩ := hInv
  obtain ⟨hTask, hRest⟩ := List.forall_mem_cons.1 hFits
  cases hSteps with
  | known _ => exact ⟨hDrawn, hRest⟩
  | primitive _ _ =>
    exact ⟨hDrawn.recordBinding _, fun t ht => (hRest t ht).mono fun _ _ hAsks => hAsks.congr rfl⟩
  | opened _ _ hGet _ =>
    refine ⟨hDrawn.recordDefinition hGet, fun t ht => ?_⟩
    rcases List.mem_append.1 ht with ht | ht
    · exact fits_of_mem_needs hGet ht
    · exact (hRest t ht).mono fun _ _ hAsks => hAsks.recordDefinition hGet
  | field =>
    obtain ⟨d, hAsks, rfl⟩ := hTask
    exact ⟨hDrawn.recordField hAsks, fun t ht => (hRest t ht).mono fun _ _ h => h.congr rfl⟩
  | operation =>
    exact ⟨hDrawn.recordOperation hTask,
      fun t ht => (hRest t ht).mono fun _ _ h => h.congr (entries_recordOperation ..)⟩

/-- The tasks that a walk starts with fit the empty tree. -/
theorem fits_of_mem_seedTasks {d : Definition} (hd : d ∈ doc.definitions) {task : Task}
    (h : task ∈ seedTasks doc d) : task.Fits doc .empty := by
  have hOperations : ∀ kind, some d.name = rootOf doc kind →
      task ∈ (d.fields.filter (·.hasResolver)).flatMap (operationTasks kind) →
      task.Fits doc .empty := by
    intro kind hRoot hTask
    obtain ⟨f, hf, hTask⟩ := List.mem_flatMap.1 hTask
    obtain ⟨hField, hAsks⟩ := List.mem_filter.1 hf
    simp only [operationTasks, List.cons_append, List.mem_cons, List.mem_append, List.mem_map,
      List.not_mem_nil, or_false] at hTask
    rcases hTask with rfl | ⟨a, -, rfl⟩ | rfl
    · trivial
    · trivial
    · exact ⟨d, hd, hRoot, hField, hAsks⟩
  rw [seedTasks] at h
  split at h
  · rename_i hName
    exact hOperations .query (congrArg some hName) h
  · split at h
    · rename_i hName
      exact hOperations .mutation hName h
    · split at h
      · simp at h
      · split at h
        · rw [List.mem_singleton] at h
          subst h
          trivial
        · simp at h

theorem drawn_seedTasks (doc : Document) : Drawn doc .empty
    ∧ ∀ t ∈ doc.definitions.flatMap (seedTasks doc), t.Fits doc .empty := by
  refine ⟨drawn_empty doc, fun task hTask => ?_⟩
  obtain ⟨d, hd, hTask⟩ := List.mem_flatMap.1 hTask
  exact fits_of_mem_seedTasks hd hTask

/-- **The tree of a schema is drawn from it.** -/
theorem drawn_of_ofDocument {tree : Tree} (h : Tree.ofDocument doc = .ok tree) :
    Drawn doc tree :=
  (run_induction (P := fun tree tasks => Drawn doc tree ∧ ∀ t ∈ tasks, t.Fits doc tree)
    (fun _ _ _ _ _ hInv hSteps => hSteps.drawn hInv) _ _ (drawn_seedTasks doc) h).1

theorem name_entry (doc : Document) (d : Definition) : (Walk.entry doc d).name = d.name := by
  rw [Walk.entry]
  cases d.kind <;> rfl

/-- An entry stands under its own name. -/
theorem Drawn.entry_name {tree : Tree} (h : Drawn doc tree) {name : String} {e : Entry}
    (hGet : tree.entries.get? name = some e) : e.name = name := by
  obtain ⟨-, d, hDoc, rfl⟩ := h.entry name e hGet
  rw [name_entry, Schema.Table.name_of_get? hDoc]

theorem Drawn.model_name {tree : Tree} (h : Drawn doc tree) {name : String} {m : Model}
    (hGet : tree.entries.get? name = some (.model m)) : m.name = name :=
  h.entry_name hGet

theorem Drawn.names_eq {tree : Tree} (h : Drawn doc tree) :
    tree.entries.values.map Entry.name = tree.entries.keys := by
  rw [tree.entries.map_values_eq (g := id) fun name e hGet => h.entry_name hGet, List.map_id]

theorem sublist_names (entries : List Entry) :
    List.Sublist ((entries.filterMap Entry.model?).map (·.name)) (entries.map Entry.name) := by
  induction entries with
  | nil => exact .slnil
  | cons e entries ih =>
    cases e with
    | model m => exact ih.cons_cons _
    | interface i => exact ih.cons _
    | enum e => exact ih.cons _
    | scalar s => exact ih.cons _

/-- The models of a tree are in the order of their names. -/
theorem Drawn.sublist_models {tree : Tree} (h : Drawn doc tree) :
    List.Sublist (tree.models.map (·.name)) tree.entries.keys := by
  rw [← h.names_eq]
  exact sublist_names _

/-! ### Middleware -/

theorem contains_foldl_add {names : List String} {set : NameSet} {name : String} :
    (names.foldl NameSet.add set).contains name = true ↔
      set.contains name = true ∨ name ∈ names := by
  induction names generalizing set with
  | nil => simp
  | cons first names ih =>
    rw [List.foldl_cons, ih, NameSet.add, Dict.contains, Dict.get?_insert, List.mem_cons]
    by_cases hName : name = first
    · simp [hName]
    · simp [hName, Dict.contains]

/-- Whatever a resolver is guarded by is a middleware of the tree. -/
structure Guarded (tree : Tree) : Prop where
  fieldResolver : ∀ key r, tree.fieldResolvers.get? key = some r →
    ∀ name ∈ r.middleware, tree.middleware.contains name = true
  query : ∀ key o, tree.queries.get? key = some o →
    ∀ name ∈ o.middleware, tree.middleware.contains name = true
  mutation : ∀ key o, tree.mutations.get? key = some o →
    ∀ name ∈ o.middleware, tree.middleware.contains name = true

theorem Guarded.recordField {tree : Tree} (h : Guarded tree) (r : FieldResolver) :
    Guarded (recordField tree r) := by
  have hOld : ∀ {name}, tree.middleware.contains name = true →
      (Walk.recordField tree r).middleware.contains name = true :=
    fun hName => contains_foldl_add.2 (.inl hName)
  refine ⟨fun key r' hGet name hName => ?_, fun key o hGet name hName =>
    hOld (h.query key o hGet name hName), fun key o hGet name hName =>
    hOld (h.mutation key o hGet name hName)⟩
  change (tree.fieldResolvers.insert r.key r).get? key = some r' at hGet
  rw [Dict.get?_insert] at hGet
  split at hGet
  · cases hGet
    exact contains_foldl_add.2 (.inr hName)
  · exact hOld (h.fieldResolver key r' hGet name hName)

theorem Guarded.recordOperation {tree : Tree} (h : Guarded tree) (o : Operation) :
    Guarded (recordOperation tree o) := by
  have hOld : ∀ {name}, tree.middleware.contains name = true →
      (Walk.recordOperation tree o).middleware.contains name = true := by
    intro name hName
    rw [middleware_recordOperation]
    exact contains_foldl_add.2 (.inl hName)
  -- the operations of the other kind are those of before, and so are all of this kind but one
  have hInsert : ∀ {d : Dict String Operation}, (∀ key o', d.get? key = some o' →
      ∀ name ∈ o'.middleware, tree.middleware.contains name = true) →
      ∀ key o', (d.insert o.name o).get? key = some o' → ∀ name ∈ o'.middleware,
      (Walk.recordOperation tree o).middleware.contains name = true := by
    intro d hd key o' hGet name hName
    rw [Dict.get?_insert] at hGet
    split at hGet
    · cases hGet
      rw [middleware_recordOperation]
      exact contains_foldl_add.2 (.inr hName)
    · exact hOld (hd key o' hGet name hName)
  refine ⟨?_, ?_, ?_⟩
  · intro key r hGet name hName
    rw [fieldResolvers_recordOperation] at hGet
    exact hOld (h.fieldResolver key r hGet name hName)
  · intro key o' hGet name hName
    rw [queries_recordOperation] at hGet
    split at hGet
    · exact hInsert h.query key o' hGet name hName
    · exact hOld (h.query key o' hGet name hName)
  · intro key o' hGet name hName
    rw [mutations_recordOperation] at hGet
    split at hGet
    · exact hOld (h.mutation key o' hGet name hName)
    · exact hInsert h.mutation key o' hGet name hName

theorem Guarded.operation {tree : Tree} (h : Guarded tree) {o : Operation}
    (ho : o ∈ tree.operations) {name : String} (hName : name ∈ o.middleware) :
    tree.middleware.contains name = true := by
  rcases Tree.mem_operations_iff.1 ho with ⟨key, hGet⟩ | ⟨key, hGet⟩
  · exact h.query key o hGet name hName
  · exact h.mutation key o hGet name hName

end Walk

end ResolverScaffold
