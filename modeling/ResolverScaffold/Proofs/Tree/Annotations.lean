import Mathlib
import ResolverScaffold.Proofs.Schema.Load
import ResolverScaffold.Proofs.Text.Parts
import ResolverScaffold.Proofs.Tree.Reachable

/-!
# Resolvers come from annotations

The walk records resolvers on its way, from many places and in an order that
depends on the schema.  What it will have recorded can be told at any time: it is
what the tree holds, and then what the tasks at hand are going to record
(`settledFields`, `settledOperations`, `Guards`).  Only a task that opens a
definition adds to that, and a definition is opened once (`Steps.open_cases`).

* `operationsOf_eq`: the operations are those of the roots.
* `contains_fieldResolvers_iff`: the keys of the field resolvers are those of the
  annotated fields of types that can be reached.
* `get?_fieldResolvers`: under a key that no other type has stands the last field
  of its type with that key.
-/

namespace ResolverScaffold

/-- The operations of a kind, by name. -/
def Tree.operationsOf (tree : Tree) : OperationKind → Dict String Operation
  | .query => tree.queries
  | .mutation => tree.mutations

/-- The fields that a type is recorded with. -/
def Entry.fields : Entry → List Field
  | .model m => m.fields
  | .interface i => i.fields
  | .enum _ | .scalar _ => []

namespace Walk

open Schema (Document Definition)
open FieldResolver (keyOf)

variable {doc : Document} {tree tree' : Tree} {task : Task} {tasks added rest : List Task}
  {d : Definition} {kind : OperationKind}

/-! ### What is annotated -/

/-- A field that asks for a resolver, of a type that can be reached and is recorded with fields. -/
structure Annotated (doc : Document) (d : Definition) (f : Schema.Field) : Prop where
  reachable : Reachable doc d.name
  notPrimitive : primitive? d.name = none
  defined : doc.get? d.name = some d
  hasFields : recordsFields d.kind = true
  mem : f ∈ d.fields
  asks : f.hasResolver = true

/-- The definition is opened as the root of a kind.  One that is both roots is the query root. -/
def opensAs (doc : Document) : OperationKind → Definition → Bool
  | .query, d => d.name = doc.query
  | .mutation, d => d.name ≠ doc.query ∧ some d.name = doc.mutation

/-- The operations of a kind that a schema asks for. -/
def offered (doc : Document) (kind : OperationKind) : List Operation :=
  (doc.definitions.filter (opensAs doc kind)).flatMap fun d =>
    (d.fields.filter (·.hasResolver)).map (operation kind)

def resolversOf (d : Definition) : List FieldResolver :=
  if recordsFields d.kind then (d.fields.filter (·.hasResolver)).map (fieldResolver d.name) else []

theorem mem_resolversOf_iff {r : FieldResolver} :
    r ∈ resolversOf d ↔ recordsFields d.kind = true
      ∧ ∃ f ∈ d.fields, f.hasResolver = true ∧ fieldResolver d.name f = r := by
  rw [resolversOf]
  split
  · rename_i hKind
    simp [hKind, and_assoc]
  · rename_i hKind
    simp [hKind]

theorem mem_offered_iff {o : Operation} :
    o ∈ offered doc kind ↔ ∃ d ∈ doc.definitions, opensAs doc kind d = true
      ∧ ∃ f ∈ d.fields, f.hasResolver = true ∧ operation kind f = o := by
  simp [offered, and_assoc]

/-! ### What tasks record -/

def Task.resolver? : Task → Option FieldResolver
  | .resolveField parent f => some (fieldResolver parent f)
  | .need _ _ | .operation _ _ => none

def Task.operation? (kind : OperationKind) : Task → Option Operation
  | .operation k f => if k = kind then some (Walk.operation kind f) else none
  | .need _ _ | .resolveField _ _ => none

def resolvers (tasks : List Task) : List FieldResolver := tasks.filterMap Task.resolver?

def operations (kind : OperationKind) (tasks : List Task) : List Operation :=
  tasks.filterMap (Task.operation? kind)

@[simp] theorem resolvers_nil : resolvers [] = [] := rfl

@[simp] theorem operations_nil : operations kind [] = [] := rfl

theorem resolvers_cons : resolvers (task :: rest) = task.resolver?.toList ++ resolvers rest := by
  rw [resolvers, List.filterMap_cons]
  cases task.resolver? <;> rfl

theorem operations_cons :
    operations kind (task :: rest) = (task.operation? kind).toList ++ operations kind rest := by
  rw [operations, List.filterMap_cons]
  cases task.operation? kind <;> rfl

@[simp] theorem resolvers_append :
    resolvers (tasks ++ rest) = resolvers tasks ++ resolvers rest := List.filterMap_append

@[simp] theorem operations_append :
    operations kind (tasks ++ rest) = operations kind tasks ++ operations kind rest :=
  List.filterMap_append

@[simp] theorem resolvers_map_need {α : Type} (name owner : α → String) (l : List α) :
    resolvers (l.map fun a => Task.need (name a) (owner a)) = [] := by
  simp [resolvers, Task.resolver?]

@[simp] theorem operations_map_need {α : Type} (name owner : α → String) (l : List α) :
    operations kind (l.map fun a => Task.need (name a) (owner a)) = [] := by
  simp [operations, Task.operation?]

theorem resolvers_fieldTasks (d : Definition) :
    resolvers (fieldTasks d) = (d.fields.filter (·.hasResolver)).map (fieldResolver d.name) := by
  rw [fieldTasks]
  induction d.fields with
  | nil => rfl
  | cons f fields ih =>
    rw [List.flatMap_cons, resolvers_append, ih]
    cases hAsks : f.hasResolver <;> simp [hAsks, resolvers_cons, Task.resolver?]

theorem operations_fieldTasks (d : Definition) : operations kind (fieldTasks d) = [] := by
  rw [fieldTasks, operations, List.filterMap_flatMap]
  exact List.flatMap_eq_nil_iff.2 fun f _ => by cases f.hasResolver <;> rfl

/-- A definition that is opened adds its own resolvers. -/
theorem resolvers_needs : resolvers (needs doc d) = resolversOf d := by
  rw [needs, resolversOf]
  cases d.kind <;> simp [recordsFields, resolvers_fieldTasks]

theorem operations_needs : operations kind (needs doc d) = [] := by
  rw [needs]
  cases d.kind <;> simp [operations_fieldTasks]

theorem resolvers_operationTasks (k : OperationKind) (f : Schema.Field) :
    resolvers (operationTasks k f) = [] := by
  simp [operationTasks, resolvers_cons, Task.resolver?]

theorem operations_operationTasks (k : OperationKind) (f : Schema.Field) :
    operations kind (operationTasks k f) = if k = kind then [operation kind f] else [] := by
  by_cases hKind : k = kind <;>
    simp [operationTasks, operations_cons, Task.operation?, hKind]

theorem resolvers_flatMap {α : Type} {f : α → List Task} (h : ∀ a, resolvers (f a) = [])
    (l : List α) : resolvers (l.flatMap f) = [] := by
  rw [resolvers, List.filterMap_flatMap]
  exact List.flatMap_eq_nil_iff.2 fun a _ => h a

theorem operations_flatMap {α : Type} {f : α → List Task} (l : List α) :
    operations kind (l.flatMap f) = l.flatMap fun a => operations kind (f a) :=
  List.filterMap_flatMap

theorem resolvers_seedTasks (d : Definition) : resolvers (seedTasks doc d) = [] := by
  have hOperations : ∀ k, resolvers
      ((d.fields.filter (·.hasResolver)).flatMap (operationTasks k)) = [] :=
    fun k => resolvers_flatMap (resolvers_operationTasks k) _
  rw [seedTasks]
  split
  · exact hOperations .query
  · split
    · exact hOperations .mutation
    · split
      · rfl
      · split <;> rfl

theorem operations_seedTasks (d : Definition) :
    operations kind (seedTasks doc d)
      = if opensAs doc kind d then (d.fields.filter (·.hasResolver)).map (operation kind)
        else [] := by
  have hOperations : ∀ k, operations kind
      ((d.fields.filter (·.hasResolver)).flatMap (operationTasks k))
        = if k = kind then (d.fields.filter (·.hasResolver)).map (operation kind) else [] := by
    intro k
    rw [operations_flatMap]
    by_cases hKind : k = kind
    · simp [operations_operationTasks, hKind, List.map_eq_flatMap]
    · simp [operations_operationTasks, hKind]
  rw [seedTasks]
  by_cases hQuery : d.name = doc.query
  · rw [if_pos hQuery, hOperations]
    cases kind <;> simp [opensAs, hQuery]
  · rw [if_neg hQuery]
    by_cases hMutation : some d.name = doc.mutation
    · rw [if_pos hMutation, hOperations]
      cases kind <;> simp [opensAs, hQuery, hMutation]
    · have hNot : opensAs doc kind d = false := by
        cases kind <;> simp [opensAs, hQuery, hMutation]
      rw [if_neg hMutation, hNot]
      split
      · rfl
      · split <;> rfl

theorem operations_seeds :
    operations kind (doc.definitions.flatMap (seedTasks doc)) = offered doc kind := by
  rw [operations_flatMap, offered]
  induction doc.definitions with
  | nil => rfl
  | cons d l ih =>
    rw [List.flatMap_cons, operations_seedTasks, ih, List.filter_cons]
    split <;> rfl

/-! ### What a task changes -/

/-- A definition that was opened. -/
structure Open (doc : Document) (tree : Tree) (d : Definition) : Prop where
  bound : tree.bindings.contains d.name = true
  notPrimitive : primitive? d.name = none
  defined : doc.get? d.name = some d

theorem Steps.open_iff (h : Steps doc tree task tree' added) (e : Definition) :
    Open doc tree' e ↔ Open doc tree e
      ∨ task.awaited? = some e.name ∧ primitive? e.name = none ∧ doc.get? e.name = some e := by
  constructor
  · rintro ⟨hBound, hNot, hGet⟩
    rcases (h.contains_bindings_iff e.name).1 hBound with hOld | hNew
    · exact .inl ⟨hOld, hNot, hGet⟩
    · exact .inr ⟨hNew, hNot, hGet⟩
  · rintro (⟨hOld, hNot, hGet⟩ | ⟨hNew, hNot, hGet⟩)
    · exact ⟨(h.contains_bindings_iff e.name).2 (.inl hOld), hNot, hGet⟩
    · exact ⟨(h.contains_bindings_iff e.name).2 (.inr hNew), hNot, hGet⟩

/-- **A task opens a definition and adds its resolvers, or it opens none and adds none.** -/
theorem Steps.open_cases (h : Steps doc tree task tree' added) :
    (∃ d, ¬Open doc tree d ∧ (∀ e, Open doc tree' e ↔ Open doc tree e ∨ e = d)
      ∧ resolvers added = resolversOf d)
    ∨ (∀ e, Open doc tree' e ↔ Open doc tree e) ∧ resolvers added = [] := by
  have hOpen := h.open_iff
  cases h with
  | known hKnown =>
    refine .inr ⟨fun e => (hOpen e).trans (or_iff_left_of_imp ?_), rfl⟩
    rintro ⟨hName, hNot, hGet⟩
    cases hName
    exact ⟨hKnown, hNot, hGet⟩
  | primitive hNew hPrimitive =>
    refine .inr ⟨fun e => (hOpen e).trans (or_iff_left_of_imp ?_), rfl⟩
    rintro ⟨hName, hNot, -⟩
    cases hName
    rw [hPrimitive] at hNot
    cases hNot
  | @opened d _ hNew hNot hGet hRoot =>
    refine .inl ⟨d, fun hOld => ?_, fun e => (hOpen e).trans (or_congr_right ?_), resolvers_needs⟩
    · have hBound := hOld.bound
      rw [hNew] at hBound
      cases hBound
    · constructor
      · rintro ⟨hName, -, hGet'⟩
        rw [← Option.some.inj hName, hGet] at hGet'
        exact (Option.some.inj hGet').symm
      · rintro rfl
        exact ⟨rfl, hNot, hGet⟩
  | field =>
    exact .inr ⟨fun e => (hOpen e).trans (or_iff_left_of_imp (by simp [Task.awaited?])), rfl⟩
  | operation =>
    exact .inr ⟨fun e => (hOpen e).trans (or_iff_left_of_imp (by simp [Task.awaited?])), rfl⟩

theorem Steps.operations_added (h : Steps doc tree task tree' added) :
    operations kind added = [] := by
  cases h with
  | opened _ _ _ _ => exact operations_needs
  | _ => rfl

theorem Steps.fieldResolvers_eq (h : Steps doc tree task tree' added) :
    tree'.fieldResolvers
      = task.resolver?.toList.foldl (fun d r => d.insert r.key r) tree.fieldResolvers := by
  cases h with
  | operation => exact fieldResolvers_recordOperation ..
  | _ => rfl

theorem Steps.operationsOf_eq (h : Steps doc tree task tree' added) :
    tree'.operationsOf kind
      = (task.operation? kind).toList.foldl (fun d o => d.insert o.name o)
        (tree.operationsOf kind) := by
  cases h with
  | @operation k f => cases k <;> cases kind <;> rfl
  | _ => cases kind <;> rfl

theorem Steps.contains_middleware_iff (h : Steps doc tree task tree' added) (name : String) :
    tree'.middleware.contains name = true ↔ tree.middleware.contains name = true
      ∨ (∃ r ∈ task.resolver?.toList, name ∈ r.middleware)
      ∨ ∃ kind, ∃ o ∈ (task.operation? kind).toList, name ∈ o.middleware := by
  cases h with
  | known _ => simp [Task.resolver?, Task.operation?]
  | primitive _ _ => simp [Task.resolver?, Task.operation?, recordBinding]
  | opened _ _ _ _ => simp [Task.resolver?, Task.operation?, recordDefinition, recordBinding]
  | @field parent f =>
    show ((fieldResolver parent f).middleware.foldl NameSet.add tree.middleware).contains name
      = true ↔ _
    rw [contains_foldl_add]
    simp [Task.resolver?, Task.operation?]
  | @operation k f =>
    rw [middleware_recordOperation, contains_foldl_add]
    simp only [Task.resolver?, Task.operation?, Option.toList_none, List.not_mem_nil, false_and,
      exists_false, false_or]
    refine or_congr_right ⟨fun hName => ⟨k, _, by rw [if_pos rfl]; exact List.mem_singleton_self _,
      hName⟩, ?_⟩
    rintro ⟨kind, o, ho, hName⟩
    split at ho
    · rw [Option.toList_some, List.mem_singleton] at ho
      subst ho
      exact hName
    · simp at ho

/-! ### What will have been recorded -/

/-- The field resolvers, once the tasks at hand have recorded theirs. -/
def settledFields (tree : Tree) (tasks : List Task) : Dict String FieldResolver :=
  (resolvers tasks).foldl (fun d r => d.insert r.key r) tree.fieldResolvers

def settledOperations (kind : OperationKind) (tree : Tree) (tasks : List Task) :
    Dict String Operation :=
  (operations kind tasks).foldl (fun d o => d.insert o.name o) (tree.operationsOf kind)

/-- A middleware of the tree, or of a resolver that a task at hand records. -/
def Guards (tree : Tree) (tasks : List Task) (name : String) : Prop :=
  tree.middleware.contains name = true ∨ (∃ r ∈ resolvers tasks, name ∈ r.middleware)
    ∨ ∃ kind, ∃ o ∈ operations kind tasks, name ∈ o.middleware

theorem Steps.settledFields_eq (h : Steps doc tree task tree' added) :
    settledFields tree' (added ++ rest)
      = (task.resolver?.toList ++ (resolvers added ++ resolvers rest)).foldl
        (fun d r => d.insert r.key r) tree.fieldResolvers := by
  rw [settledFields, resolvers_append, h.fieldResolvers_eq,
    List.foldl_append (l := task.resolver?.toList)]

theorem Steps.contains_settledFields_iff (h : Steps doc tree task tree' added) (key : String) :
    (settledFields tree' (added ++ rest)).contains key = true ↔
      (settledFields tree (task :: rest)).contains key = true
      ∨ ∃ r ∈ resolvers added, r.key = key := by
  rw [h.settledFields_eq, settledFields, resolvers_cons,
    Dict.contains_foldl_insert_iff FieldResolver.key (fun r => r),
    Dict.contains_foldl_insert_iff FieldResolver.key (fun r => r)]
  simp only [List.mem_append, or_and_right, exists_or, or_assoc, or_left_comm, or_comm]

/-- No task changes the operations that will have been recorded. -/
theorem Steps.settledOperations_eq (h : Steps doc tree task tree' added) :
    settledOperations kind tree' (added ++ rest) = settledOperations kind tree (task :: rest) := by
  rw [settledOperations, settledOperations, operations_append, h.operations_added,
    List.nil_append, h.operationsOf_eq, operations_cons, List.foldl_append]

theorem Steps.guards_iff (h : Steps doc tree task tree' added) (name : String) :
    Guards tree' (added ++ rest) name ↔ Guards tree (task :: rest) name
      ∨ ∃ r ∈ resolvers added, name ∈ r.middleware := by
  -- what the task itself records moves from the tasks into the tree
  have hMoves : ∀ {inTree field operation new fields operations : Prop},
      (inTree ∨ field ∨ operation) ∨ (new ∨ fields) ∨ operations ↔
        (inTree ∨ (field ∨ fields) ∨ operation ∨ operations) ∨ new := by tauto
  simp only [Guards, h.contains_middleware_iff, resolvers_append, operations_append,
    h.operations_added, resolvers_cons, operations_cons, List.mem_append, List.nil_append,
    or_and_right, exists_or]
  exact hMoves

/-- What the walk records comes from the roots and from the definitions that are open. -/
structure Recorded (doc : Document) (tree : Tree) (tasks : List Task) : Prop where
  operation : ∀ kind, settledOperations kind tree tasks
    = (offered doc kind).foldl (fun d o => d.insert o.name o) .empty
  field : ∀ d, Open doc tree d → ∀ r ∈ resolversOf d,
    (settledFields tree tasks).contains r.key = true
  guard : ∀ name, Guards tree tasks name ↔
    (∃ kind, ∃ o ∈ offered doc kind, name ∈ o.middleware)
    ∨ ∃ d, Open doc tree d ∧ ∃ r ∈ resolversOf d, name ∈ r.middleware

theorem recorded_seedTasks (doc : Document) :
    Recorded doc .empty (doc.definitions.flatMap (seedTasks doc)) where
  operation kind := by
    rw [settledOperations, operations_seeds]
    cases kind <;> rfl
  field d hOpen := by cases hOpen.bound
  guard name := by
    have hNone : ∀ d, ¬Open doc .empty d := fun d hOpen => by cases hOpen.bound
    have hEmpty : Dict.contains Tree.empty.middleware name = false := rfl
    simp [Guards, operations_seeds, resolvers_flatMap resolvers_seedTasks, hNone, hEmpty]

/-- **What a task keeps of the records.** -/
theorem Steps.recorded (h : Steps doc tree task tree' added)
    (hInv : Recorded doc tree (task :: rest)) : Recorded doc tree' (added ++ rest) where
  operation kind := by rw [h.settledOperations_eq, hInv.operation]
  field e hOpen r hr := by
    rw [h.contains_settledFields_iff]
    rcases h.open_cases with ⟨d, -, hOpens, hAdded⟩ | ⟨hSame, -⟩
    · rcases (hOpens e).1 hOpen with hOld | rfl
      · exact .inl (hInv.field e hOld r hr)
      · exact .inr ⟨r, hAdded ▸ hr, rfl⟩
    · exact .inl (hInv.field e ((hSame e).1 hOpen) r hr)
  guard name := by
    rw [h.guards_iff, hInv.guard, or_assoc]
    refine or_congr_right ?_
    rcases h.open_cases with ⟨d, -, hOpens, hAdded⟩ | ⟨hSame, hAdded⟩
    · simp only [hOpens, hAdded, or_and_right, exists_or, exists_eq_left]
    · simp [hSame, hAdded]

/-! ### What has been recorded -/

theorem recorded_of_ofDocument (h : Tree.ofDocument doc = .ok tree) : Recorded doc tree [] :=
  run_induction (fun _ _ _ _ _ hInv hSteps => hSteps.recorded hInv) _ _ (recorded_seedTasks doc) h

/-- **The operations of a tree are those of the roots.** -/
theorem operationsOf_eq (h : Tree.ofDocument doc = .ok tree) (kind : OperationKind) :
    tree.operationsOf kind = (offered doc kind).foldl (fun d o => d.insert o.name o) .empty :=
  (recorded_of_ofDocument h).operation kind

theorem contains_operationsOf_iff (h : Tree.ofDocument doc = .ok tree) {name : String} :
    (tree.operationsOf kind).contains name = true ↔ ∃ o ∈ offered doc kind, o.name = name := by
  rw [operationsOf_eq h, Dict.contains_foldl_insert_iff Operation.name (fun o => o)]
  simp [Dict.contains]

theorem open_iff (h : Tree.ofDocument doc = .ok tree) :
    Open doc tree d ↔ Reachable doc d.name ∧ primitive? d.name = none
      ∧ doc.get? d.name = some d := by
  rw [← contains_bindings_iff h]
  exact ⟨fun ⟨hBound, hNot, hGet⟩ => ⟨hBound, hNot, hGet⟩,
    fun ⟨hBound, hNot, hGet⟩ => ⟨hBound, hNot, hGet⟩⟩

theorem Open.exists_annotated (hOpen : Open doc tree d) (hExplored : Explored doc tree tasks)
    {r : FieldResolver} (hr : r ∈ resolversOf d) :
    ∃ f, Annotated doc d f ∧ fieldResolver d.name f = r := by
  obtain ⟨hKind, f, hf, hAsks, hr⟩ := mem_resolversOf_iff.1 hr
  have hReachable := hExplored.reachable d.name (.inl hOpen.bound)
  exact ⟨f, ⟨hReachable, hOpen.notPrimitive, hOpen.defined, hKind, hf, hAsks⟩, hr⟩

theorem Annotated.isOpen {f : Schema.Field} (hf : Annotated doc d f)
    (h : Tree.ofDocument doc = .ok tree) : Open doc tree d :=
  (open_iff h).2 ⟨hf.reachable, hf.notPrimitive, hf.defined⟩

theorem Annotated.mem_resolversOf {f : Schema.Field} (hf : Annotated doc d f) :
    fieldResolver d.name f ∈ resolversOf d :=
  mem_resolversOf_iff.2 ⟨hf.hasFields, f, hf.mem, hf.asks, rfl⟩

/-- A field of an entry that asks for a resolver is annotated. -/
theorem AsksIn.annotated {f : Schema.Field} (h : AsksIn doc tree d f)
    (hExplored : Explored doc tree tasks) : Annotated doc d f ∧ Open doc tree d := by
  have hEntered : tree.entries.contains d.name = true :=
    tree.entries.contains_eq_true_iff.2 ⟨_, h.entered⟩
  obtain ⟨hBound, hNot⟩ := (hExplored.entered d.name).1 hEntered
  exact ⟨⟨hExplored.reachable _ (.inl hBound), hNot, h.defined, h.hasFields, h.mem, h.asks⟩,
    hBound, hNot, h.defined⟩

/-- **The keys of the field resolvers are those of the annotated fields.** -/
theorem contains_fieldResolvers_iff (h : Tree.ofDocument doc = .ok tree) {key : String} :
    tree.fieldResolvers.contains key = true ↔
      ∃ d f, Annotated doc d f ∧ keyOf d.name f.name = key := by
  constructor
  · intro hKey
    obtain ⟨r, hGet⟩ := tree.fieldResolvers.contains_eq_true_iff.1 hKey
    obtain ⟨rfl, d, f, hAsks, rfl⟩ := (drawn_of_ofDocument h).fieldResolver key r hGet
    exact ⟨d, f, (hAsks.annotated (explored_of_ofDocument h)).1, rfl⟩
  · rintro ⟨d, f, hAnnotated, rfl⟩
    exact (recorded_of_ofDocument h).field d (hAnnotated.isOpen h) _ hAnnotated.mem_resolversOf

/-- **The middleware of a tree is that of its resolvers.** -/
theorem contains_middleware_iff (h : Tree.ofDocument doc = .ok tree) {name : String} :
    tree.middleware.contains name = true ↔
      (∃ kind, ∃ o ∈ offered doc kind, name ∈ o.middleware)
      ∨ ∃ d f, Annotated doc d f ∧ name ∈ Middleware.names f.description := by
  have hGuard := (recorded_of_ofDocument h).guard name
  simp only [Guards, resolvers_nil, operations_nil, List.not_mem_nil, false_and, exists_false,
    or_false] at hGuard
  rw [hGuard]
  refine or_congr_right (exists_congr fun d => ?_)
  constructor
  · rintro ⟨hOpen, r, hr, hName⟩
    obtain ⟨f, hAnnotated, rfl⟩ := hOpen.exists_annotated (explored_of_ofDocument h) hr
    exact ⟨f, hAnnotated, hName⟩
  · rintro ⟨f, hAnnotated, hName⟩
    exact ⟨hAnnotated.isOpen h, _, hAnnotated.mem_resolversOf, hName⟩

/-! ### Under a key of one type -/

theorem exists_mem_of_mem_resolvers {r : FieldResolver} (h : r ∈ resolvers tasks) :
    ∃ parent f, Task.resolveField parent f ∈ tasks ∧ fieldResolver parent f = r := by
  obtain ⟨task, hTask, hr⟩ := List.mem_filterMap.1 h
  cases task with
  | resolveField parent f => exact ⟨parent, f, hTask, Option.some.inj hr⟩
  | need name referencedBy => cases hr
  | operation kind f => cases hr

/-- What will stand under a key belongs to a definition that is open. -/
theorem exists_of_get?_settledFields (hExplored : Explored doc tree tasks)
    (hDrawn : Drawn doc tree ∧ ∀ t ∈ tasks, t.Fits doc tree) {key : String} {r : FieldResolver}
    (h : (settledFields tree tasks).get? key = some r) :
    ∃ d f, Annotated doc d f ∧ Open doc tree d ∧ keyOf d.name f.name = key := by
  rw [settledFields, Dict.get?_foldl_insert FieldResolver.key (fun r => r),
    Option.or_eq_some_iff] at h
  rcases h with hTask | ⟨-, hTree⟩
  · obtain ⟨r, hLast, rfl⟩ := Option.map_eq_some_iff.1 hTask
    obtain ⟨hMem, hKey⟩ := List.mem_filter.1 (List.mem_of_getLast? hLast)
    obtain ⟨parent, f, hResolve, rfl⟩ := exists_mem_of_mem_resolvers hMem
    obtain ⟨d, hAsks, rfl⟩ := hDrawn.2 _ hResolve
    obtain ⟨hAnnotated, hOpen⟩ := hAsks.annotated hExplored
    exact ⟨d, f, hAnnotated, hOpen, of_decide_eq_true hKey⟩
  · obtain ⟨hKey, d, f, hAsks, rfl⟩ := hDrawn.1.fieldResolver key r hTree
    obtain ⟨hAnnotated, hOpen⟩ := hAsks.annotated hExplored
    exact ⟨d, f, hAnnotated, hOpen, hKey⟩

theorem Steps.get?_settledFields_of_ne (h : Steps doc tree task tree' added) {key : String}
    (hNe : ∀ r ∈ resolvers added, r.key ≠ key) :
    (settledFields tree' (added ++ rest)).get? key
      = (settledFields tree (task :: rest)).get? key := by
  have hNone : ((resolvers added).filter fun r => r.key = key) = [] :=
    List.filter_eq_nil_iff.2 fun r hr => by simpa using hNe r hr
  rw [h.settledFields_eq, settledFields, resolvers_cons,
    Dict.get?_foldl_insert FieldResolver.key (fun r => r),
    Dict.get?_foldl_insert FieldResolver.key (fun r => r), List.filter_append, List.filter_append,
    hNone, List.nil_append, List.filter_append]

/-- A key that nothing stands under yet gets the last of the resolvers that a task adds. -/
theorem Steps.get?_settledFields_of_none (h : Steps doc tree task tree' added) {key : String}
    (hNone : (settledFields tree (task :: rest)).get? key = none) :
    (settledFields tree' (added ++ rest)).get? key
      = ((resolvers added).filter fun r => r.key = key).getLast? := by
  rw [settledFields, resolvers_cons, Dict.get?_foldl_insert FieldResolver.key (fun r => r),
    Option.or_eq_none_iff, Option.map_eq_none_iff, List.getLast?_eq_none_iff, List.filter_append,
    List.append_eq_nil_iff] at hNone
  obtain ⟨⟨hTask, hRest⟩, hTree⟩ := hNone
  rw [h.settledFields_eq, Dict.get?_foldl_insert FieldResolver.key (fun r => r),
    List.filter_append, List.filter_append, hTask, hRest, hTree, List.nil_append, List.append_nil,
    Option.or_none]
  exact Option.map_id'

/-- **Under a key that only one type has stands the last field of the type with that key.** -/
theorem get?_fieldResolvers (h : Tree.ofDocument doc = .ok tree) {key : String}
    (hDefined : Open doc tree d)
    (hOwner : ∀ e f, Annotated doc e f → keyOf e.name f.name = key → e.name = d.name) :
    tree.fieldResolvers.get? key = ((resolversOf d).filter fun r => r.key = key).getLast? := by
  have hSame : ∀ {e f}, Annotated doc e f → keyOf e.name f.name = key → e = d := by
    intro e f hAnnotated hKey
    have hGet := hAnnotated.defined
    rw [hOwner e f hAnnotated hKey, hDefined.defined] at hGet
    exact (Option.some.inj hGet).symm
  refine (run_induction (P := fun tree tasks => Explored doc tree tasks
    ∧ (Drawn doc tree ∧ ∀ t ∈ tasks, t.Fits doc tree)
    ∧ (Open doc tree d → (settledFields tree tasks).get? key
      = ((resolversOf d).filter fun r => r.key = key).getLast?)) ?_ _ _
    ⟨explored_seedTasks doc, drawn_seedTasks doc, fun hOpen => by cases hOpen.bound⟩ h).2.2 hDefined
  rintro tree task rest tree' added ⟨hExplored, hDrawn, hInv⟩ hSteps
  refine ⟨hSteps.explored hExplored, hSteps.drawn hDrawn, fun hOpen => ?_⟩
  rcases hSteps.open_cases with ⟨opened, hNew, hOpens, hAdded⟩ | ⟨hSteady, hAdded⟩
  · by_cases hOpened : opened = d
    · -- the type is opened here, so nothing can stand under its key yet
      subst hOpened
      rw [← hAdded]
      refine hSteps.get?_settledFields_of_none ?_
      refine Option.eq_none_iff_forall_ne_some.2 fun r hGet => ?_
      obtain ⟨e, f, hAnnotated, hOld, hKey⟩ := exists_of_get?_settledFields hExplored hDrawn hGet
      rw [hSame hAnnotated hKey] at hOld
      exact hNew hOld
    · -- another type is opened, and it does not have the key
      have hOther : ∀ r ∈ resolvers added, r.key ≠ key := by
        intro r hr hKey
        obtain ⟨f, hAnnotated, rfl⟩ := ((hOpens opened).2 (.inr rfl)).exists_annotated
          (hSteps.explored hExplored) (hAdded ▸ hr)
        exact hOpened (hSame hAnnotated hKey)
      rw [hSteps.get?_settledFields_of_ne hOther]
      exact hInv (((hOpens d).1 hOpen).resolve_right fun hd => hOpened hd.symm)
  · rw [hSteps.get?_settledFields_of_ne (by simp [hAdded])]
    exact hInv ((hSteady d).1 hOpen)

/-! ### From annotations only -/

theorem isOperation_of_mem_offered {o : Operation} (h : o ∈ offered doc kind) :
    ∃ f, IsOperation doc kind f ∧ operation kind f = o := by
  obtain ⟨d, hd, hOpens, f, hf, hAsks, ho⟩ := mem_offered_iff.1 h
  refine ⟨f, ⟨d, hd, ?_, hf, hAsks⟩, ho⟩
  cases kind with
  | query => exact congrArg some (of_decide_eq_true hOpens)
  | mutation => exact (of_decide_eq_true hOpens).2

/-- Whatever an operation root asks for is offered, as a query where the root is the query root. -/
theorem exists_mem_offered {f : Schema.Field} (h : IsOperation doc kind f) :
    ∃ kind', operation kind' f ∈ offered doc kind' := by
  obtain ⟨d, hd, hRoot, hf, hAsks⟩ := h
  by_cases hQuery : d.name = doc.query
  · exact ⟨.query, mem_offered_iff.2 ⟨d, hd, decide_eq_true hQuery, f, hf, hAsks, rfl⟩⟩
  · cases kind with
    | query => exact absurd (Option.some.inj hRoot) hQuery
    | mutation =>
      exact ⟨.mutation, mem_offered_iff.2
        ⟨d, hd, decide_eq_true ⟨hQuery, hRoot⟩, f, hf, hAsks, rfl⟩⟩

/-- The fields of an entry are those of its definition. -/
theorem field_mem_fields_entry (hKind : recordsFields d.kind = true) {f : Schema.Field}
    (hf : f ∈ d.fields) : field d.name f ∈ (entry doc d).fields := by
  have hMem : field d.name f ∈ d.fields.map (field d.name) := List.mem_map_of_mem hf
  rw [entry]
  cases hd : d.kind <;> rw [hd] at hKind
  case object => exact hMem
  case input => exact hMem
  case interface => exact hMem
  all_goals cases hKind

/-- The resolvers and the middleware of a tree are those that annotations of a schema ask for. -/
structure FromAnnotations (doc : Document) (tree : Tree) : Prop where
  fieldKey : ∀ key, key ∈ tree.fieldResolvers.keys ↔
    ∃ d f, Annotated doc d f ∧ d.name ++ "_" ++ f.name = key
  fieldResolver : ∀ key r, tree.fieldResolvers.get? key = some r → r.key = key
    ∧ (∃ e, tree.entries.get? r.parent = some e ∧ r.field ∈ e.fields)
    ∧ ∃ d f, Annotated doc d f ∧ r = Walk.fieldResolver d.name f
  query : ∀ name, name ∈ tree.queries.keys ↔ ∃ d ∈ doc.definitions, d.name = doc.query
    ∧ ∃ f ∈ d.fields, f.hasResolver = true ∧ f.name = name
  mutation : ∀ name, name ∈ tree.mutations.keys ↔ doc.mutation ≠ some doc.query
    ∧ ∃ d ∈ doc.definitions, some d.name = doc.mutation
      ∧ ∃ f ∈ d.fields, f.hasResolver = true ∧ f.name = name
  middleware : ∀ name, name ∈ tree.middleware.names ↔
    (∃ d f, Annotated doc d f ∧ name ∈ Middleware.names f.description)
    ∨ ∃ kind f, IsOperation doc kind f ∧ name ∈ Middleware.names f.description

/-- **The resolvers and the middleware of a tree come from annotations**, and no annotated key, root
field or middleware name is left out. -/
theorem resolvers_from_annotations (h : Tree.ofDocument doc = .ok tree) :
    FromAnnotations doc tree where
  fieldKey key := by
    rw [Dict.mem_keys_iff, contains_fieldResolvers_iff h]
    rfl
  fieldResolver key r hGet := by
    obtain ⟨hKey, d, f, hAsks, rfl⟩ := (drawn_of_ofDocument h).fieldResolver key r hGet
    exact ⟨hKey, ⟨_, hAsks.entered, field_mem_fields_entry hAsks.hasFields hAsks.mem⟩, d, f,
      (hAsks.annotated (explored_of_ofDocument h)).1, rfl⟩
  query name := by
    rw [Dict.mem_keys_iff, show tree.queries = tree.operationsOf .query from rfl,
      contains_operationsOf_iff h]
    constructor
    · rintro ⟨o, ho, rfl⟩
      obtain ⟨d, hd, hOpens, f, hf, hAsks, rfl⟩ := mem_offered_iff.1 ho
      exact ⟨d, hd, of_decide_eq_true hOpens, f, hf, hAsks, rfl⟩
    · rintro ⟨d, hd, hName, f, hf, hAsks, rfl⟩
      exact ⟨_, mem_offered_iff.2 ⟨d, hd, decide_eq_true hName, f, hf, hAsks, rfl⟩, rfl⟩
  mutation name := by
    rw [Dict.mem_keys_iff, show tree.mutations = tree.operationsOf .mutation from rfl,
      contains_operationsOf_iff h]
    constructor
    · rintro ⟨o, ho, rfl⟩
      obtain ⟨d, hd, hOpens, f, hf, hAsks, rfl⟩ := mem_offered_iff.1 ho
      obtain ⟨hQuery, hMutation⟩ := of_decide_eq_true hOpens
      refine ⟨fun hSame => ?_, d, hd, hMutation, f, hf, hAsks, rfl⟩
      exact hQuery (Option.some.inj (hMutation.trans hSame))
    · rintro ⟨hApart, d, hd, hMutation, f, hf, hAsks, rfl⟩
      have hQuery : d.name ≠ doc.query := fun hName => hApart (by rw [← hMutation, hName])
      exact ⟨_, mem_offered_iff.2
        ⟨d, hd, decide_eq_true ⟨hQuery, hMutation⟩, f, hf, hAsks, rfl⟩, rfl⟩
  middleware name := by
    rw [show name ∈ tree.middleware.names ↔ tree.middleware.contains name = true from
      Dict.mem_keys_iff .., contains_middleware_iff h, or_comm]
    refine or_congr_right ⟨?_, ?_⟩
    · rintro ⟨kind, o, ho, hName⟩
      obtain ⟨f, hf, rfl⟩ := isOperation_of_mem_offered ho
      exact ⟨kind, f, hf, hName⟩
    · rintro ⟨kind, f, hf, hName⟩
      obtain ⟨kind', ho⟩ := exists_mem_offered hf
      exact ⟨kind', _, ho, hName⟩

/-- The ring has two annotated fields, one query and one middleware. -/
theorem resolvers_from_annotations_of_ring :
    Tree.ofDocument Sample.ringDocument = .ok Sample.ringTree
    ∧ (∀ key, key ∈ ["Middleware_auth", "User_friend"] ↔
      ∃ d f, Annotated Sample.ringDocument d f ∧ d.name ++ "_" ++ f.name = key)
    ∧ ∀ name, name ∈ ["auth"] ↔
      (∃ d f, Annotated Sample.ringDocument d f ∧ name ∈ Middleware.names f.description)
      ∨ ∃ kind f, IsOperation Sample.ringDocument kind f
        ∧ name ∈ Middleware.names f.description :=
  have hRing := resolvers_from_annotations Sample.ofDocument_ringDocument
  ⟨Sample.ofDocument_ringDocument, hRing.fieldKey, hRing.middleware⟩

end Walk

end ResolverScaffold
