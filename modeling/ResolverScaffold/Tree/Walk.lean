import ResolverScaffold.Annotation.Middleware
import ResolverScaffold.Schema.Document
import ResolverScaffold.Tree.Basic
import ResolverScaffold.Tree.Primitive

/-!
# Walking a schema

`Tree.ofDocument` collects the tree of a schema.  The walk keeps a list of
tasks: a type that is needed, or a resolver to record once the types it
mentions are there.  A type that is needed for the first time is recorded and
its own needs are put in front of the list, so the walk goes depth first.

The walk ends because a type is opened only while it has no binding: each step
either opens a definition or takes a task off the list (`step_measure`).
-/

namespace ResolverScaffold

/-- Why a schema has no tree. -/
inductive WalkError where
  /-- A reference names a type that is not defined. -/
  | unknownType (name referencedBy : String)
  /-- A reference names the query or mutation root. -/
  | rootReused (name referencedBy : String) (location : Schema.Location)
  deriving DecidableEq, Repr

def WalkError.message : WalkError → String
  | .unknownType name referencedBy => "unknown type " ++ name ++ " referenced by " ++ referencedBy
  | .rootReused name referencedBy location =>
    "root type " ++ name ++ " cannot be used as a model (referenced by " ++ referencedBy ++ ", "
      ++ location.text ++ ")"

namespace Walk

open Schema (Document Definition)

/-- Something left to do. -/
inductive Task where
  /-- Make sure a type is in the tree. -/
  | need (name referencedBy : String)
  /-- Record the resolver of a field. -/
  | resolveField (parent : String) (field : Schema.Field)
  /-- Record an operation. -/
  | operation (kind : OperationKind) (field : Schema.Field)

/-- A field of a type, as the tree keeps it. -/
def field (parent : String) (f : Schema.Field) : Field :=
  { name := f.name, description := f.description, type := f.type,
    predicate := Field.predicateOf parent f.name }

/-- The interfaces and unions a type belongs to. -/
def parents (doc : Document) (d : Definition) : List String :=
  d.implements ++ doc.unionsContaining d.name

/-- The types that come with an interface: those it implements and those that implement it. -/
def relatives (doc : Document) (d : Definition) : List String :=
  d.implements ++ (doc.implementors d.name).filter fun n => !doc.isOperationRoot n

def entry (doc : Document) (d : Definition) : Entry :=
  match d.kind with
  | .object | .input => .model
    { name := d.name, description := d.description, fields := d.fields.map (field d.name)
      implements := parents doc d
      events := LifecycleEvent.ofDirective (d.directive? Schema.webhookDirective) }
  | .interface => .interface
    { name := d.name, description := d.description, isUnion := false
      fields := d.fields.map (field d.name) }
  | .union => .interface
    { name := d.name, description := d.description, isUnion := true, fields := [] }
  | .enum => .enum { name := d.name, description := d.description, values := d.values }
  | .scalar => .scalar { name := d.name, description := d.description }

/-- What the fields of a definition need. -/
def fieldTasks (d : Definition) : List Task :=
  d.fields.flatMap fun f =>
    .need f.type.name (d.name ++ "." ++ f.name)
      :: if f.hasResolver then [.resolveField d.name f] else []

def needs (doc : Document) (d : Definition) : List Task :=
  match d.kind with
  | .object | .input => fieldTasks d ++ (parents doc d).map (.need · d.name)
  | .interface => fieldTasks d ++ (relatives doc d).map (.need · d.name)
  | .union => d.members.map (.need · d.name)
  | .enum | .scalar => []

def fieldResolver (parent : String) (f : Schema.Field) : FieldResolver :=
  { parent, field := field parent f, middleware := Middleware.names f.description }

def operation (kind : OperationKind) (f : Schema.Field) : Operation :=
  { kind, name := f.name, description := f.description
    arguments := f.arguments.map fun a => ⟨a.name, a.type⟩
    returns := f.type, middleware := Middleware.names f.description }

def addMiddleware (tree : Tree) (names : List String) : Tree :=
  { tree with middleware := names.foldl NameSet.add tree.middleware }

def recordField (tree : Tree) (r : FieldResolver) : Tree :=
  addMiddleware { tree with fieldResolvers := tree.fieldResolvers.insert r.key r } r.middleware

def recordOperation (tree : Tree) (o : Operation) : Tree :=
  let tree := match o.kind with
    | .query => { tree with queries := tree.queries.insert o.name o }
    | .mutation => { tree with mutations := tree.mutations.insert o.name o }
  addMiddleware tree o.middleware

def recordBinding (tree : Tree) (b : Binding) : Tree :=
  { tree with bindings := tree.bindings.insert b.name b }

/-- Record the binding and the entry of a definition. -/
def recordDefinition (doc : Document) (tree : Tree) (d : Definition) : Tree :=
  { recordBinding tree (.pending d.name) with entries := tree.entries.insert d.name (entry doc d) }

/-- Do one task: the tree after it and the tasks it adds. -/
def step (doc : Document) (tree : Tree) : Task → Except WalkError (Tree × List Task)
  | .need name referencedBy =>
    if tree.bindings.contains name then .ok (tree, [])
    else
      match primitive? name with
      | some rustType => .ok (recordBinding tree (.primitive name rustType), [])
      | none =>
        match doc.get? name with
        | none => .error (.unknownType name referencedBy)
        | some d =>
          if doc.isOperationRoot name then .error (.rootReused name referencedBy d.location)
          else .ok (recordDefinition doc tree d, needs doc d)
  | .resolveField parent f => .ok (recordField tree (fieldResolver parent f), [])
  | .operation kind f => .ok (recordOperation tree (operation kind f), [])

/-- How many definitions have no binding yet. -/
def unopened (doc : Document) (tree : Tree) : Nat :=
  doc.definitions.countP fun d => !tree.bindings.contains d.name

theorem contains_recordBinding (tree : Tree) (b : Binding) (name : String) :
    (recordBinding tree b).bindings.contains name
      = (decide (name = b.name) || tree.bindings.contains name) := by
  simp only [recordBinding, Dict.contains, Dict.get?_insert]
  by_cases h : name = b.name <;> simp [h]

theorem unopened_recordBinding_le (doc : Document) (tree : Tree) (b : Binding) :
    unopened doc (recordBinding tree b) ≤ unopened doc tree := by
  apply List.countP_mono_left
  intro d _ h
  rw [contains_recordBinding] at h
  simp only [Bool.not_or, Bool.and_eq_true] at h
  exact h.2

theorem countP_lt_of_imp {α : Type} {p q : α → Bool} (hImp : ∀ a, p a = true → q a = true)
    {a : α} (hp : p a = false) (hq : q a = true) :
    ∀ l : List α, a ∈ l → l.countP p < l.countP q := by
  intro l
  induction l with
  | nil => intro h; simp at h
  | cons b l ih =>
    intro h
    have hRest : l.countP p ≤ l.countP q := List.countP_mono_left fun x _ => hImp x
    rw [List.countP_cons, List.countP_cons]
    rcases List.mem_cons.1 h with rfl | h
    · rw [hp, hq]
      simp
      omega
    · have hLess := ih h
      by_cases hb : p b = true
      · rw [hb, hImp b hb]
        simp
        exact hLess
      · rw [if_neg hb]
        omega

theorem unopened_recordDefinition_lt (doc : Document) (tree : Tree) {d : Definition}
    (hMem : d ∈ doc.definitions) (hNew : tree.bindings.contains d.name = false) :
    unopened doc (recordDefinition doc tree d) < unopened doc tree := by
  refine countP_lt_of_imp (a := d) ?_ ?_ ?_ doc.definitions hMem
  · intro e h
    have hOpen : (!(recordBinding tree (.pending d.name)).bindings.contains e.name) = true := h
    rw [contains_recordBinding, Bool.not_or, Bool.and_eq_true] at hOpen
    exact hOpen.2
  · have hSeen : (recordBinding tree (.pending d.name)).bindings.contains d.name = true := by
      rw [contains_recordBinding]
      simp [Binding.pending]
    show (!(recordBinding tree (.pending d.name)).bindings.contains d.name) = false
    rw [hSeen]
    rfl
  · rw [hNew]
    rfl

/-- A step opens a definition, or it adds no task and leaves no more definitions unopened. -/
theorem step_measure {doc : Document} {tree tree' : Tree} {task : Task} {added : List Task}
    (h : step doc tree task = .ok (tree', added)) :
    unopened doc tree' < unopened doc tree
      ∨ unopened doc tree' ≤ unopened doc tree ∧ added = [] := by
  cases task with
  | need name referencedBy =>
    rw [step] at h
    split at h
    · cases h
      exact .inr ⟨Nat.le_refl _, rfl⟩
    · rename_i hNew
      split at h
      · cases h
        exact .inr ⟨unopened_recordBinding_le .., rfl⟩
      · split at h
        · cases h
        · rename_i d hGet
          split at h
          · cases h
          · cases h
            refine .inl (unopened_recordDefinition_lt doc tree (Schema.Table.mem_of_get? hGet) ?_)
            rw [Schema.Table.name_of_get? hGet]
            simpa using hNew
  | resolveField parent f =>
    cases h
    exact .inr ⟨Nat.le_refl _, rfl⟩
  | operation kind f =>
    cases h
    refine .inr ⟨?_, rfl⟩
    cases kind <;> exact Nat.le_refl _

/-- Do all tasks, those that a task adds before the others. -/
def run (doc : Document) (tree : Tree) (tasks : List Task) : Except WalkError Tree :=
  match tasks with
  | [] => .ok tree
  | task :: rest =>
    match _h : step doc tree task with
    | .error e => .error e
    | .ok (tree', added) => run doc tree' (added ++ rest)
termination_by (unopened doc tree, tasks.length)
decreasing_by
  rw [Prod.lex_def]
  rcases step_measure _h with hLess | ⟨hLe, hNone⟩
  · exact .inl hLess
  · subst hNone
    rcases Nat.lt_or_eq_of_le hLe with hLess | hSame
    · exact .inl hLess
    · exact .inr ⟨hSame, by simp⟩

/-- The tasks of an operation: its types and then the operation itself. -/
def operationTasks (kind : OperationKind) (f : Schema.Field) : List Task :=
  let route := kind.title ++ "." ++ f.name
  .need f.type.name route
    :: f.arguments.map (fun a => .need a.type.name (route ++ "(" ++ a.name ++ ")"))
    ++ [.operation kind f]

/-- Whether a definition is in the tree whether or not something needs it. -/
def isSeed (d : Definition) : Bool :=
  match d.kind with
  | .enum | .scalar => !d.builtin
  | .object | .input | .interface | .union => d.hasResolver

def seedTasks (doc : Document) (d : Definition) : List Task :=
  if d.name = doc.query then (d.fields.filter (·.hasResolver)).flatMap (operationTasks .query)
  else if some d.name = doc.mutation then
    (d.fields.filter (·.hasResolver)).flatMap (operationTasks .mutation)
  else if some d.name = doc.subscription then []
  else if isSeed d then [.need d.name d.name]
  else []

end Walk

def Tree.ofDocument (doc : Schema.Document) : Except WalkError Tree :=
  Walk.run doc .empty (doc.definitions.flatMap (Walk.seedTasks doc))

end ResolverScaffold
