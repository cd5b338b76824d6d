import Mathlib
import ResolverScaffold.Proofs.Schema.Load
import ResolverScaffold.Proofs.Tree.Walk

/-!
# The walk finds what can be reached

Which types a schema needs code for can be said without walking it: some names
are needed from the start (`Seed`), a definition refers to others (`Refers`), and
`Reachable` closes the first under the second.

Three facts about the walk give the rest, and `Explored` holds them together for
a walk under way.  It binds and awaits reachable names only; every seed is bound
or awaited; whatever a bound name refers to is bound or awaited.  At the end
nothing is awaited, so the bound names are the reachable ones
(`contains_bindings_iff`).  A walk that fails has met a reachable name that is
not usable (`exists_unusable`).
-/

namespace ResolverScaffold.Walk

open Schema (Document Definition)

variable {doc : Document}

/-! ### What can be reached -/

def IsRoot (doc : Document) (name : String) : Prop :=
  name = doc.query ∨ some name = doc.mutation ∨ some name = doc.subscription

/-- The types that a field names: its own and those of its arguments. -/
def typeNames (f : Schema.Field) : List String := f.type.name :: f.arguments.map (·.type.name)

/-- A name that is needed from the start. -/
inductive Seed (doc : Document) : String → Prop
  | leaf {d : Definition} : d ∈ doc.definitions → ¬IsRoot doc d.name →
      d.kind = .enum ∨ d.kind = .scalar → d.builtin = false → Seed doc d.name
  | annotated {d : Definition} : d ∈ doc.definitions → ¬IsRoot doc d.name →
      d.kind = .object ∨ d.kind = .input ∨ d.kind = .interface ∨ d.kind = .union →
      d.hasResolver = true → Seed doc d.name
  | operation {kind : OperationKind} {f : Schema.Field} {name : String} :
      IsOperation doc kind f → name ∈ typeNames f → Seed doc name

/-- A definition refers to a name. -/
inductive Refers (doc : Document) (d : Definition) : String → Prop
  | field {f : Schema.Field} : recordsFields d.kind = true → f ∈ d.fields → Refers doc d f.type.name
  | implements {name : String} : recordsFields d.kind = true → name ∈ d.implements →
      Refers doc d name
  | union {u : Definition} : d.kind = .object ∨ d.kind = .input → u ∈ doc.definitions →
      u.kind = .union → d.name ∈ u.members → Refers doc d u.name
  | implementor {o : Definition} : d.kind = .interface → o ∈ doc.definitions → o.kind = .object →
      d.name ∈ o.implements → doc.isOperationRoot o.name = false → Refers doc d o.name
  | member {name : String} : d.kind = .union → name ∈ d.members → Refers doc d name

/-- A name leads to the next: it is defined, not primitive, and its definition refers to it. -/
def Edge (doc : Document) (name next : String) : Prop :=
  primitive? name = none ∧ ∃ d, doc.get? name = some d ∧ Refers doc d next

inductive Reachable (doc : Document) : String → Prop
  | seed {name : String} : Seed doc name → Reachable doc name
  | edge {name next : String} : Reachable doc name → Edge doc name next → Reachable doc next

/-- A name that can stand for a type: a primitive, or a defined name that is no operation root. -/
def Usable (doc : Document) (name : String) : Prop :=
  primitive? name = none →
    (∃ d, doc.get? name = some d) ∧ name ≠ doc.query ∧ some name ≠ doc.mutation

theorem isOperationRoot_eq_false_iff {name : String} :
    doc.isOperationRoot name = false ↔ name ≠ doc.query ∧ some name ≠ doc.mutation := by
  rw [Document.isOperationRoot, Bool.or_eq_false_iff, beq_eq_false_iff_ne, beq_eq_false_iff_ne]
  exact and_congr ne_comm ne_comm

/-! ### The names that tasks await -/

def Task.awaited? : Task → Option String
  | .need name _ => some name
  | .resolveField _ _ | .operation _ _ => none

def awaited (tasks : List Task) : List String := tasks.filterMap Task.awaited?

@[simp] theorem awaited_nil : awaited [] = [] := rfl

@[simp] theorem awaited_append (tasks more : List Task) :
    awaited (tasks ++ more) = awaited tasks ++ awaited more := List.filterMap_append

@[simp] theorem awaited_map_need (names : List String) (owner : String) :
    awaited (names.map (Task.need · owner)) = names := by
  induction names with
  | nil => rfl
  | cons name names ih => exact congrArg (name :: ·) ih

theorem mem_awaited_cons {task : Task} {tasks : List Task} {name : String} :
    name ∈ awaited (task :: tasks) ↔ task.awaited? = some name ∨ name ∈ awaited tasks := by
  simp only [awaited, List.mem_filterMap, List.mem_cons, or_and_right, exists_or, exists_eq_left]

theorem awaited_fieldTasks (d : Definition) :
    awaited (fieldTasks d) = d.fields.map (·.type.name) := by
  rw [fieldTasks]
  induction d.fields with
  | nil => rfl
  | cons f fields ih =>
    rw [List.flatMap_cons, awaited_append, ih, List.map_cons]
    cases f.hasResolver <;> rfl

theorem awaited_operationTasks (kind : OperationKind) (f : Schema.Field) :
    awaited (operationTasks kind f) = typeNames f := by
  have hArguments : ∀ (route : String) (l : List Schema.Argument),
      awaited (l.map fun a => .need a.type.name (route ++ "(" ++ a.name ++ ")"))
        = l.map (·.type.name) := by
    intro route l
    induction l with
    | nil => rfl
    | cons a l ih => exact congrArg (a.type.name :: ·) ih
  show f.type.name :: awaited (_ ++ [Task.operation kind f]) = typeNames f
  rw [awaited_append, hArguments]
  simp [awaited, Task.awaited?, typeNames]

theorem mem_parents_iff {d : Definition} {name : String} :
    name ∈ parents doc d ↔ name ∈ d.implements
      ∨ ∃ u ∈ doc.definitions, u.kind = .union ∧ d.name ∈ u.members ∧ u.name = name := by
  simp [parents, Document.unionsContaining, and_assoc]

theorem mem_relatives_iff {d : Definition} {name : String} :
    name ∈ relatives doc d ↔ name ∈ d.implements
      ∨ ∃ o ∈ doc.definitions, o.kind = .object ∧ d.name ∈ o.implements
        ∧ doc.isOperationRoot o.name = false ∧ o.name = name := by
  simp only [relatives, Document.implementors, List.mem_append, List.mem_filter, List.mem_map,
    Bool.and_eq_true, beq_iff_eq, List.contains_iff_mem, Bool.not_eq_true']
  constructor
  · rintro (hName | ⟨⟨o, ⟨ho, hKind, hMem⟩, rfl⟩, hRoot⟩)
    · exact .inl hName
    · exact .inr ⟨o, ho, hKind, hMem, hRoot, rfl⟩
  · rintro (hName | ⟨o, ho, hKind, hMem, hRoot, rfl⟩)
    · exact .inl hName
    · exact .inr ⟨⟨o, ⟨ho, hKind, hMem⟩, rfl⟩, hRoot⟩

/-- **A definition that is opened awaits what it refers to.** -/
theorem mem_awaited_needs_iff {d : Definition} {name : String} :
    name ∈ awaited (needs doc d) ↔ Refers doc d name := by
  constructor
  · intro h
    rw [needs] at h
    have hField : recordsFields d.kind = true → name ∈ d.fields.map (·.type.name) →
        Refers doc d name := by
      intro hKind hName
      obtain ⟨f, hf, rfl⟩ := List.mem_map.1 hName
      exact .field hKind hf
    have hParent : d.kind = .object ∨ d.kind = .input → name ∈ parents doc d →
        Refers doc d name := by
      intro hKind hName
      have hRecords : recordsFields d.kind = true := by
        rcases hKind with hKind | hKind <;> rw [hKind] <;> rfl
      rcases mem_parents_iff.1 hName with hName | ⟨u, hu, hUnion, hMem, rfl⟩
      · exact .implements hRecords hName
      · exact .union hKind hu hUnion hMem
    cases hKind : d.kind <;> rw [hKind] at h <;> simp only [awaited_append, awaited_fieldTasks,
      awaited_map_need, awaited_nil, List.mem_append, List.not_mem_nil] at h
    case object => exact h.elim (hField (by rw [hKind]; rfl)) (hParent (.inl hKind))
    case input => exact h.elim (hField (by rw [hKind]; rfl)) (hParent (.inr hKind))
    case union => exact .member hKind h
    case interface =>
      have hRecords : recordsFields d.kind = true := by rw [hKind]; rfl
      refine h.elim (hField hRecords) fun hName => ?_
      rcases mem_relatives_iff.1 hName with hName | ⟨o, ho, hObject, hMem, hRoot, rfl⟩
      · exact .implements hRecords hName
      · exact .implementor hKind ho hObject hMem hRoot
  · intro h
    rw [needs]
    cases h with
    | field hRecords hf =>
      cases hKind : d.kind <;> rw [hKind] at hRecords <;> cases hRecords
      all_goals
        rw [awaited_append, awaited_fieldTasks]
        exact List.mem_append_left _ (List.mem_map.2 ⟨_, hf, rfl⟩)
    | implements hRecords hName =>
      cases hKind : d.kind <;> rw [hKind] at hRecords <;> cases hRecords
      all_goals
        rw [awaited_append, awaited_map_need]
        exact List.mem_append_right _ (List.mem_append_left _ hName)
    | union hKind hu hUnion hMem =>
      have hName := mem_parents_iff.2 (.inr ⟨_, hu, hUnion, hMem, rfl⟩)
      rcases hKind with hKind | hKind <;> rw [hKind, awaited_append, awaited_map_need]
      · exact List.mem_append_right _ hName
      · exact List.mem_append_right _ hName
    | implementor hKind ho hObject hMem hRoot =>
      rw [hKind, awaited_append, awaited_map_need]
      exact List.mem_append_right _ (mem_relatives_iff.2 (.inr ⟨_, ho, hObject, hMem, hRoot, rfl⟩))
    | member hKind hName =>
      rw [hKind, awaited_map_need]
      exact hName

/-! ### The tasks that a walk starts with -/

theorem mem_awaited_operations_iff {kind : OperationKind} {fields : List Schema.Field}
    {name : String} :
    name ∈ awaited ((fields.filter (·.hasResolver)).flatMap (operationTasks kind)) ↔
      ∃ f ∈ fields, f.hasResolver = true ∧ name ∈ typeNames f := by
  have hTasks : ∀ l : List Schema.Field,
      name ∈ awaited (l.flatMap (operationTasks kind)) ↔ ∃ f ∈ l, name ∈ typeNames f := by
    intro l
    induction l with
    | nil => simp
    | cons f l ih => simp [awaited_operationTasks, ih]
  simp [hTasks, List.mem_filter, and_assoc]

theorem mem_awaited_flatMap_iff {tasks : Definition → List Task} {l : List Definition}
    {name : String} : name ∈ awaited (l.flatMap tasks) ↔ ∃ d ∈ l, name ∈ awaited (tasks d) := by
  induction l with
  | nil => simp
  | cons d l ih => simp [ih]

theorem seed_of_mem_awaited {d : Definition} (hd : d ∈ doc.definitions) {name : String}
    (h : name ∈ awaited (seedTasks doc d)) : Seed doc name := by
  rw [seedTasks] at h
  split at h
  · rename_i hQuery
    obtain ⟨f, hf, hAsks, hName⟩ := mem_awaited_operations_iff.1 h
    have hOperation : IsOperation doc .query f := ⟨d, hd, congrArg some hQuery, hf, hAsks⟩
    exact .operation hOperation hName
  · rename_i hQuery
    split at h
    · rename_i hMutation
      obtain ⟨f, hf, hAsks, hName⟩ := mem_awaited_operations_iff.1 h
      have hOperation : IsOperation doc .mutation f := ⟨d, hd, hMutation, hf, hAsks⟩
      exact .operation hOperation hName
    · rename_i hMutation
      split at h
      · simp at h
      · rename_i hSubscription
        have hRoot : ¬IsRoot doc d.name := by
          rintro (hName | hName | hName)
          · exact hQuery hName
          · exact hMutation hName
          · exact hSubscription hName
        split at h
        · rename_i hSeed
          obtain rfl : name = d.name := by simpa [awaited, Task.awaited?] using h
          rw [isSeed] at hSeed
          cases hKind : d.kind <;> rw [hKind] at hSeed
          case object => exact .annotated hd hRoot (.inl hKind) hSeed
          case input => exact .annotated hd hRoot (.inr (.inl hKind)) hSeed
          case interface => exact .annotated hd hRoot (.inr (.inr (.inl hKind))) hSeed
          case union => exact .annotated hd hRoot (.inr (.inr (.inr hKind))) hSeed
          case enum => exact .leaf hd hRoot (.inl hKind) (by simpa using hSeed)
          case scalar => exact .leaf hd hRoot (.inr hKind) (by simpa using hSeed)
        · simp at h

theorem awaited_seedTasks_of_isSeed {d : Definition} (hRoot : ¬IsRoot doc d.name)
    (hSeed : isSeed d = true) : awaited (seedTasks doc d) = [d.name] := by
  rw [IsRoot, not_or, not_or] at hRoot
  obtain ⟨hQuery, hMutation, hSubscription⟩ := hRoot
  rw [seedTasks, if_neg hQuery, if_neg hMutation, if_neg hSubscription, if_pos hSeed]
  rfl

/-- **The walk starts with the seeds.** -/
theorem mem_awaited_seedTasks_iff {name : String} :
    name ∈ awaited (doc.definitions.flatMap (seedTasks doc)) ↔ Seed doc name := by
  rw [mem_awaited_flatMap_iff]
  constructor
  · rintro ⟨d, hd, hName⟩
    exact seed_of_mem_awaited hd hName
  · intro h
    cases h with
    | @leaf d hd hRoot hKind hBuiltin =>
      have hSeed : isSeed d = true := by
        rcases hKind with hKind | hKind <;> simp [isSeed, hKind, hBuiltin]
      exact ⟨d, hd, by rw [awaited_seedTasks_of_isSeed hRoot hSeed]; exact List.mem_singleton_self _⟩
    | @annotated d hd hRoot hKind hAsks =>
      have hSeed : isSeed d = true := by
        rcases hKind with hKind | hKind | hKind | hKind <;> simp [isSeed, hKind, hAsks]
      exact ⟨d, hd, by rw [awaited_seedTasks_of_isSeed hRoot hSeed]; exact List.mem_singleton_self _⟩
    | @operation kind f name hOperation hName =>
      obtain ⟨d, hd, hRoot, hf, hAsks⟩ := hOperation
      refine ⟨d, hd, ?_⟩
      rw [seedTasks]
      -- a mutation root that is the query root too is opened as the query root
      by_cases hQuery : d.name = doc.query
      · rw [if_pos hQuery]
        exact mem_awaited_operations_iff.2 ⟨f, hf, hAsks, hName⟩
      · rw [if_neg hQuery]
        cases kind with
        | query => exact absurd (Option.some.inj hRoot) hQuery
        | mutation =>
          rw [if_pos (show some d.name = doc.mutation from hRoot)]
          exact mem_awaited_operations_iff.2 ⟨f, hf, hAsks, hName⟩

/-! ### What a task does to names -/

section Steps

variable {tree tree' : Tree} {task : Task} {added rest : List Task}

theorem contains_recordBinding_iff {b : Binding} {name : String} :
    (recordBinding tree b).bindings.contains name = true ↔
      tree.bindings.contains name = true ∨ b.name = name := by
  rw [contains_recordBinding, Bool.or_eq_true, decide_eq_true_iff, or_comm, eq_comm (a := name)]

/-- A task binds the name it awaits and no other. -/
theorem Steps.contains_bindings_iff (h : Steps doc tree task tree' added) (name : String) :
    tree'.bindings.contains name = true ↔
      tree.bindings.contains name = true ∨ task.awaited? = some name := by
  cases h with
  | known hKnown =>
    simp only [Task.awaited?, Option.some.injEq]
    constructor
    · exact .inl
    · rintro (hName | rfl)
      · exact hName
      · exact hKnown
  | primitive hNew hPrimitive =>
    rw [contains_recordBinding_iff, Task.awaited?, Option.some.injEq]
    rfl
  | @opened d _ hNew hNot hGet hRoot =>
    show (recordBinding tree (.pending d.name)).bindings.contains name = true ↔ _
    rw [contains_recordBinding_iff, Task.awaited?, Option.some.injEq]
    rfl
  | field => simp [Task.awaited?, recordField, addMiddleware]
  | operation => simp [Task.awaited?]

/-- A task that binds a name for the first time awaits the names it leads to. -/
theorem Steps.mem_awaited_iff (h : Steps doc tree task tree' added) (next : String) :
    next ∈ awaited added ↔ ∃ name, task.awaited? = some name
      ∧ tree.bindings.contains name = false ∧ Edge doc name next := by
  cases h with
  | known hKnown =>
    refine ⟨fun hNext => absurd hNext List.not_mem_nil, ?_⟩
    rintro ⟨name, hName, hNew, -⟩
    cases hName
    rw [hKnown] at hNew
    cases hNew
  | primitive hNew hPrimitive =>
    refine ⟨fun hNext => absurd hNext List.not_mem_nil, ?_⟩
    rintro ⟨name, hName, -, hNot, -⟩
    cases hName
    rw [hPrimitive] at hNot
    cases hNot
  | @opened d _ hNew hNot hGet hRoot =>
    rw [mem_awaited_needs_iff]
    constructor
    · intro hRefers
      exact ⟨d.name, rfl, hNew, hNot, d, hGet, hRefers⟩
    · rintro ⟨name, hName, -, -, d', hGet', hRefers⟩
      cases hName
      rw [hGet] at hGet'
      cases hGet'
      exact hRefers
  | field => simp [Task.awaited?]
  | operation => simp [Task.awaited?]

theorem Steps.usable (h : Steps doc tree task tree' added) {name : String}
    (hName : task.awaited? = some name) (hNew : tree.bindings.contains name = false) :
    Usable doc name := by
  intro hNot
  cases h with
  | known hKnown =>
    cases hName
    rw [hKnown] at hNew
    cases hNew
  | primitive _ hPrimitive =>
    cases hName
    rw [hPrimitive] at hNot
    cases hNot
  | @opened d _ _ _ hGet hRoot =>
    cases hName
    exact ⟨⟨d, hGet⟩, isOperationRoot_eq_false_iff.1 hRoot⟩
  | field => cases hName
  | operation => cases hName

/-- A task enters the name it binds for the first time, unless that is a primitive. -/
theorem Steps.contains_entries_iff (h : Steps doc tree task tree' added) (name : String) :
    tree'.entries.contains name = true ↔ tree.entries.contains name = true
      ∨ task.awaited? = some name ∧ tree.bindings.contains name = false
        ∧ primitive? name = none := by
  cases h with
  | known hKnown =>
    refine ⟨.inl, ?_⟩
    rintro (hName | ⟨hName, hNew, -⟩)
    · exact hName
    · cases hName
      rw [hKnown] at hNew
      cases hNew
  | primitive hNew hPrimitive =>
    refine ⟨.inl, ?_⟩
    rintro (hName | ⟨hName, -, hNot⟩)
    · exact hName
    · cases hName
      rw [hPrimitive] at hNot
      cases hNot
  | @opened d _ hNew hNot hGet hRoot =>
    show (tree.entries.insert d.name (entry doc d)).contains name = true ↔ _
    rw [Dict.contains, Dict.get?_insert]
    by_cases hName : name = d.name
    · subst hName
      simp [Task.awaited?, hNew, hNot]
    · simp [Task.awaited?, hName, Ne.symm hName, Dict.contains]
  | field => simp [Task.awaited?, recordField, addMiddleware]
  | operation => simp [Task.awaited?]

/-! ### A walk under way -/

/-- A name that is bound, or that a task awaits. -/
def Met (tree : Tree) (tasks : List Task) (name : String) : Prop :=
  tree.bindings.contains name = true ∨ name ∈ awaited tasks

/-- How far a walk has got. -/
structure Explored (doc : Document) (tree : Tree) (tasks : List Task) : Prop where
  reachable : ∀ name, Met tree tasks name → Reachable doc name
  seed : ∀ name, Seed doc name → Met tree tasks name
  edge : ∀ name next, tree.bindings.contains name = true → Edge doc name next →
    Met tree tasks next
  usable : ∀ name, tree.bindings.contains name = true → Usable doc name
  entered : ∀ name, tree.entries.contains name = true ↔
    tree.bindings.contains name = true ∧ primitive? name = none

theorem Steps.met (h : Steps doc tree task tree' added) {name : String}
    (hMet : Met tree (task :: rest) name) : Met tree' (added ++ rest) name := by
  rcases hMet with hBound | hAwaited
  · exact .inl ((h.contains_bindings_iff name).2 (.inl hBound))
  · rcases mem_awaited_cons.1 hAwaited with hTask | hRest
    · exact .inl ((h.contains_bindings_iff name).2 (.inr hTask))
    · exact .inr (by rw [awaited_append]; exact List.mem_append_right _ hRest)

/-- **What a task keeps of the exploration.** -/
theorem Steps.explored (h : Steps doc tree task tree' added)
    (hInv : Explored doc tree (task :: rest)) : Explored doc tree' (added ++ rest) := by
  have hTask : ∀ {name}, task.awaited? = some name → Reachable doc name := fun hName =>
    hInv.reachable _ (.inr (mem_awaited_cons.2 (.inl hName)))
  refine ⟨?_, fun name hSeed => h.met (hInv.seed name hSeed), ?_, ?_, ?_⟩
  · rintro next (hBound | hAwaited)
    · rcases (h.contains_bindings_iff next).1 hBound with hOld | hNew
      · exact hInv.reachable next (.inl hOld)
      · exact hTask hNew
    · rw [awaited_append, List.mem_append] at hAwaited
      rcases hAwaited with hAdded | hRest
      · obtain ⟨name, hName, -, hEdge⟩ := (h.mem_awaited_iff next).1 hAdded
        exact .edge (hTask hName) hEdge
      · exact hInv.reachable next (.inr (mem_awaited_cons.2 (.inr hRest)))
  · intro name next hBound hEdge
    by_cases hOld : tree.bindings.contains name = true
    · exact h.met (hInv.edge name next hOld hEdge)
    · -- the name was bound by this task, so the task has added what it leads to
      have hName := ((h.contains_bindings_iff name).1 hBound).resolve_left hOld
      have hNext := (h.mem_awaited_iff next).2 ⟨name, hName, by simpa using hOld, hEdge⟩
      exact .inr (by rw [awaited_append]; exact List.mem_append_left _ hNext)
  · intro name hBound
    by_cases hOld : tree.bindings.contains name = true
    · exact hInv.usable name hOld
    · exact h.usable (((h.contains_bindings_iff name).1 hBound).resolve_left hOld)
        (by simpa using hOld)
  · intro name
    rw [h.contains_entries_iff, h.contains_bindings_iff, hInv.entered]
    by_cases hOld : tree.bindings.contains name = true
    · simp [hOld]
    · simp [hOld]

end Steps

theorem explored_seedTasks (doc : Document) :
    Explored doc .empty (doc.definitions.flatMap (seedTasks doc)) where
  reachable name hMet := by
    rcases hMet with hBound | hAwaited
    · cases hBound
    · exact .seed (mem_awaited_seedTasks_iff.1 hAwaited)
  seed name hSeed := .inr (mem_awaited_seedTasks_iff.2 hSeed)
  edge name next hBound := by cases hBound
  usable name hBound := by cases hBound
  entered name := by simp [Tree.empty, Dict.contains]

/-! ### A walk that ends -/

theorem explored_of_ofDocument {tree : Tree} (h : Tree.ofDocument doc = .ok tree) :
    Explored doc tree [] :=
  run_induction (fun _ _ _ _ _ hInv hSteps => hSteps.explored hInv) _ _ (explored_seedTasks doc) h

/-- **The bound names are the reachable ones.** -/
theorem contains_bindings_iff {tree : Tree} (h : Tree.ofDocument doc = .ok tree) {name : String} :
    tree.bindings.contains name = true ↔ Reachable doc name := by
  have hInv := explored_of_ofDocument h
  have hMet : ∀ {name}, Met tree [] name → tree.bindings.contains name = true := by
    rintro name (hBound | hNone)
    · exact hBound
    · cases hNone
  constructor
  · exact fun hBound => hInv.reachable name (.inl hBound)
  · intro hReachable
    induction hReachable with
    | seed hSeed => exact hMet (hInv.seed _ hSeed)
    | edge _ hEdge ih => exact hMet (hInv.edge _ _ ih hEdge)

theorem not_usable_of_step_eq_error {tree : Tree} {task : Task} {e : WalkError}
    (h : step doc tree task = .error e) : ∃ name, task.awaited? = some name ∧ ¬Usable doc name := by
  cases task with
  | need name referencedBy =>
    refine ⟨name, rfl, fun hUsable => ?_⟩
    rw [step] at h
    split at h
    · cases h
    · split at h
      · cases h
      · rename_i hNot
        obtain ⟨⟨d, hGet⟩, hRoot⟩ := hUsable hNot
        simp [hGet, isOperationRoot_eq_false_iff.2 hRoot] at h
  | resolveField parent f => cases h
  | operation kind f => cases h

/-- A walk that fails has met a name that is not usable. -/
theorem exists_unusable {e : WalkError} (h : Tree.ofDocument doc = .error e) :
    ∃ name, Reachable doc name ∧ ¬Usable doc name := by
  obtain ⟨tree, task, rest, hInv, hFail⟩ := exists_step_eq_error
    (fun _ _ _ _ _ hInv hSteps => Steps.explored hSteps hInv) _ _ (explored_seedTasks doc) h
  obtain ⟨name, hName, hNot⟩ := not_usable_of_step_eq_error hFail
  exact ⟨name, hInv.reachable name (.inr (mem_awaited_cons.2 (.inl hName))), hNot⟩

/-- **A schema has a tree if and only if all that can be reached is usable.** -/
theorem exists_tree_iff : (∃ tree, Tree.ofDocument doc = .ok tree) ↔
    ∀ name, Reachable doc name → Usable doc name := by
  constructor
  · rintro ⟨tree, hTree⟩ name hName
    exact (explored_of_ofDocument hTree).usable name ((contains_bindings_iff hTree).2 hName)
  · intro hUsable
    cases hTree : Tree.ofDocument doc with
    | ok tree => exact ⟨tree, rfl⟩
    | error e =>
      obtain ⟨name, hName, hNot⟩ := exists_unusable hTree
      exact absurd (hUsable name hName) hNot

/-- **A schema has a tree if all that can be reached is usable**, and the tree then holds what can
be reached. -/
theorem ofDocument_is_reachability (doc : Document) :
    ((∃ tree, Tree.ofDocument doc = .ok tree) ↔
      ∀ name, Reachable doc name → primitive? name = none →
        (∃ d, doc.get? name = some d) ∧ name ≠ doc.query ∧ some name ≠ doc.mutation)
    ∧ ∀ tree, Tree.ofDocument doc = .ok tree →
      (∀ name, name ∈ tree.bindings.keys ↔ Reachable doc name)
      ∧ ∀ name, name ∈ tree.entries.keys ↔ Reachable doc name ∧ primitive? name = none := by
  refine ⟨exists_tree_iff, fun tree hTree => ⟨fun name => ?_, fun name => ?_⟩⟩
  · rw [Dict.mem_keys_iff, contains_bindings_iff hTree]
  · rw [Dict.mem_keys_iff, (explored_of_ofDocument hTree).entered, contains_bindings_iff hTree]

end ResolverScaffold.Walk

/-! ### Types in a ring

A user is a node, a node has an owner of any kind, the only kind is `Middleware`, and the nodes are
the users.  Only the query and the two types with resolvers are needed from the start.
-/

namespace ResolverScaffold.Sample

def askedField (name : String) (type : TypeRef) : Schema.Field :=
  { name, description := none, arguments := [], type, directives := [⟨"lambda", []⟩] }

def objectNamed (name : String) : Schema.Definition :=
  { Schema.Definition.emptyObject name ⟨"schema.graphql", 1⟩ with builtin := false }

def ringQuery : Schema.Field :=
  { askedField "user" ⟨"User", false, false⟩ with
    description := some "@middleware([\"auth\"])"
    arguments := [⟨"id", none, ⟨"ID", false, true⟩⟩] }

def friendField : Schema.Field := askedField "friend" ⟨"User", false, false⟩

def ownerField : Schema.Field :=
  { askedField "owner" ⟨"Any", false, false⟩ with directives := [] }

def authField : Schema.Field := askedField "auth" ⟨"Int", false, false⟩

def ringDefinitions : List Schema.Definition :=
  [{ objectNamed "Query" with fields := [ringQuery] },
   { objectNamed "User" with
     directives := [⟨"lambdaOnMutate", [("add", .bool true)]⟩]
     implements := ["Node"]
     fields := [friendField] },
   { objectNamed "Node" with kind := .interface, fields := [ownerField] },
   { objectNamed "Any" with kind := .union, members := ["Middleware"] },
   { objectNamed "Middleware" with fields := [authField] }]

theorem nodup_ring :
    ((Schema.Prelude.definitions ++ ringDefinitions).map (·.name)).Nodup := by decide

def ringDocument : Schema.Document := documentOf _ nodup_ring "Query"

def ringModel (name : String) (events : List LifecycleEvent) (implements : List String)
    (field : Schema.Field) : Entry :=
  .model { name, description := none, fields := [Walk.field name field], implements, events }

def ringTree : Tree where
  entries := .ofList
    [("User", ringModel "User" [.add] ["Node"] friendField),
     ("Node", .interface ⟨"Node", none, false, [Walk.field "Node" ownerField]⟩),
     ("Any", .interface ⟨"Any", none, true, []⟩),
     ("Middleware", ringModel "Middleware" [] ["Any"] authField)]
  fieldResolvers := .ofList
    [("User_friend", ⟨"User", Walk.field "User" friendField, []⟩),
     ("Middleware_auth", ⟨"Middleware", Walk.field "Middleware" authField, []⟩)]
  queries := .ofList [("user", ⟨.query, "user", ringQuery.description,
    [⟨"id", ⟨"ID", false, true⟩⟩], ⟨"User", false, false⟩, ["auth"]⟩)]
  mutations := .empty
  middleware := .ofList [("auth", ())]
  bindings := .ofList
    [("User", .pending "User"), ("Node", .pending "Node"), ("Any", .pending "Any"),
     ("Middleware", .pending "Middleware"), ("Int", .primitive "Int" "i64"),
     ("ID", .primitive "ID" "String")]

theorem names_ringQuery : Middleware.names ringQuery.description = ["auth"] := by
  have hAt : Middleware.contentAt? "@middleware([\"auth\"])".toList
      = some ("[\"auth\"]".toList, []) := by decide
  have hRead : StringList.read? "[\"auth\"]".toList = some ["auth"] := by cbv
  exact Middleware.namesIn_of_contentAt? hAt hRead

theorem ofDocument_ringDocument : Tree.ofDocument ringDocument = .ok ringTree := by
  have hSeeds : ringDocument.definitions.flatMap (Walk.seedTasks ringDocument)
      = [.need "User" "Query.user", .need "ID" "Query.user(id)", .operation .query ringQuery,
        .need "User" "User", .need "Middleware" "Middleware"] := rfl
  have hOperation : Walk.step ringDocument
      { ringTree with queries := .empty, middleware := .empty } (.operation .query ringQuery)
      = .ok (ringTree, []) := by
    rw [Walk.step, Walk.operation, names_ringQuery]
    rfl
  rw [Tree.ofDocument, hSeeds]
  -- the ring is closed by the time the query is recorded, and its seeds are then known
  iterate 11 refine (Walk.run_of_step rfl).trans ?_
  refine (Walk.run_of_step (hOperation :)).trans ?_
  iterate 2 refine (Walk.run_of_step rfl).trans ?_
  rw [List.nil_append, Walk.run]

end ResolverScaffold.Sample

namespace ResolverScaffold.Walk

/-- What can be reached is the ring and the primitives it uses. -/
theorem reachable_in_ring :
    (∃ tree, Tree.ofDocument Sample.ringDocument = .ok tree)
    ∧ (∀ name, Reachable Sample.ringDocument name ↔
      name ∈ ["Any", "ID", "Int", "Middleware", "Node", "User"])
    ∧ ∀ name, Reachable Sample.ringDocument name ∧ primitive? name = none ↔
      name ∈ ["Any", "Middleware", "Node", "User"] := by
  obtain ⟨hBound, hEntered⟩ :=
    (ofDocument_is_reachability Sample.ringDocument).2 _ Sample.ofDocument_ringDocument
  exact ⟨⟨_, Sample.ofDocument_ringDocument⟩, fun name => (hBound name).symm,
    fun name => (hEntered name).symm⟩

end ResolverScaffold.Walk
