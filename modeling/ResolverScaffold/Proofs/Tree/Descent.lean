import Mathlib
import ResolverScaffold.Proofs.Tree.Reachable

/-!
# The walk comes to an end

The walk keeps a list of tasks, but it goes depth first: whatever a task adds is
done before the tasks that were there.  `Descends` says this as a recursion.  A
task opens a definition and descends into what that needs, and each of these may
descend in turn; only then does the loop go on with the next task, in the tree
that the descent has left.

A descent is a finite tree of calls, so to end means to have one.  Nothing in the
schema gets smaller on the way down, since types may refer to each other in
circles.  What gets smaller is `unopened`: a name is bound before the descent
into its definition, and nothing that happens below unbinds it.

* `exists_descends`: every list of tasks has a descent, and it ends as the walk does.
* `Descends.unique`: there is one descent only.
* `Descends.openedBetween`: it opens no name twice.
-/

namespace ResolverScaffold.Walk

open Schema (Document Definition)

/-- The definition that a task opens, whose entry it computes: that of a name which has no binding
yet, is not primitive and is no operation root. -/
def opened? (doc : Document) (tree : Tree) : Task → Option Definition
  | .need name _ =>
    if tree.bindings.contains name || (primitive? name).isSome || doc.isOperationRoot name then none
    else doc.get? name
  | .resolveField _ _ | .operation _ _ => none

/-- How tasks are done one after the other, each with all that it leads to: the definitions that
are opened on the way, in order, and how it ends. -/
inductive Descends (doc : Document) :
    Tree → List Task → List Definition → Except WalkError Tree → Prop
  | done {tree : Tree} : Descends doc tree [] [] (.ok tree)
  | failed {tree : Tree} {task : Task} {rest : List Task} {e : WalkError} :
      step doc tree task = .error e → Descends doc tree (task :: rest) [] (.error e)
  | failedBelow {tree tree' : Tree} {task : Task} {added rest : List Task}
      {below : List Definition} {e : WalkError} : step doc tree task = .ok (tree', added) →
      Descends doc tree' added below (.error e) →
      Descends doc tree (task :: rest) ((opened? doc tree task).toList ++ below) (.error e)
  | next {tree tree' tree'' : Tree} {task : Task} {added rest : List Task}
      {below later : List Definition} {result : Except WalkError Tree} :
      step doc tree task = .ok (tree', added) → Descends doc tree' added below (.ok tree'') →
      Descends doc tree'' rest later result →
      Descends doc tree (task :: rest) ((opened? doc tree task).toList ++ below ++ later) result

/-- The walk does one task. -/
inductive Next (doc : Document) : Tree × List Task → Tree × List Task → Prop
  | task {tree tree' : Tree} {task : Task} {rest added : List Task} :
      step doc tree task = .ok (tree', added) →
      Next doc (tree, task :: rest) (tree', added ++ rest)

variable {doc : Document} {tree tree' : Tree} {task : Task} {tasks added rest : List Task}

/-! ### One task at a time -/

theorem wellFounded_next (doc : Document) : WellFounded fun s' s => Next doc s s' := by
  have hLex : WellFounded (Prod.Lex (· < ·) (· < ·) : ℕ × ℕ → ℕ × ℕ → Prop) :=
    WellFounded.prod_lex Nat.lt_wfRel.wf Nat.lt_wfRel.wf
  refine Subrelation.wf ?_ (InvImage.wf
    (fun s : Tree × List Task => (unopened doc s.1, s.2.length)) hLex)
  intro s' s hNext
  cases hNext with
  | task hStep =>
    rw [InvImage, Prod.lex_def]
    rcases step_measure hStep with hLess | ⟨hLe, rfl⟩
    · exact .inl hLess
    · rcases Nat.lt_or_eq_of_le hLe with hLess | hSame
      · exact .inl hLess
      · exact .inr ⟨hSame, by simp⟩

/-- **No walk goes on for ever**, wherever it starts. -/
theorem not_forall_next (doc : Document) (states : ℕ → Tree × List Task) :
    ¬∀ n, Next doc (states n) (states (n + 1)) := by
  intro hNext
  obtain ⟨n, hMin⟩ := (wellFounded_next doc).has_min (Set.range states) ⟨_, 0, rfl⟩
  obtain ⟨⟨k, rfl⟩, hLeast⟩ := hMin
  exact hLeast (states (k + 1)) ⟨k + 1, rfl⟩ (hNext k)

/-! ### Two lists of tasks -/

theorem run_of_step_eq_error {e : WalkError} (h : step doc tree task = .error e) :
    run doc tree (task :: rest) = .error e := by
  rw [run]
  split
  · rename_i hFail
    rw [h] at hFail
    cases hFail
    rfl
  · rename_i hOk
    rw [h] at hOk
    cases hOk

/-- Tasks at the end of the list wait for all that stands before them. -/
theorem run_append (tree : Tree) (tasks more : List Task) :
    run doc tree (tasks ++ more) = run doc tree tasks >>= fun tree' => run doc tree' more := by
  fun_induction run doc tree tasks with
  | case1 tree => rfl
  | case2 tree task rest e hFail =>
    rw [List.cons_append, run_of_step_eq_error hFail]
    rfl
  | case3 tree task rest tree' added hOk ih =>
    rw [List.cons_append, run_of_step hOk, ← List.append_assoc, ih]

theorem contains_of_run {final : Tree} (h : run doc tree tasks = .ok final) {name : String}
    (hName : tree.bindings.contains name = true) : final.bindings.contains name = true :=
  run_induction (P := fun tree _ => tree.bindings.contains name = true)
    (fun _ _ _ _ _ hInv hSteps => (hSteps.contains_bindings_iff name).2 (.inl hInv)) _ _ hName h

theorem unopened_le_of_run {final : Tree} (h : run doc tree tasks = .ok final) :
    unopened doc final ≤ unopened doc tree := by
  apply List.countP_mono_left
  intro d _ hNew
  rw [Bool.not_eq_true'] at hNew ⊢
  rw [← Bool.not_eq_true] at hNew ⊢
  exact fun hOld => hNew (contains_of_run h hOld)

/-! ### The descent and the walk -/

/-- A descent ends as the walk does. -/
theorem Descends.eq_run {opened : List Definition} {result : Except WalkError Tree}
    (h : Descends doc tree tasks opened result) : result = run doc tree tasks := by
  induction h with
  | done => rw [run]
  | failed hStep => rw [run_of_step_eq_error hStep]
  | failedBelow hStep _ ih =>
    rw [run_of_step hStep, run_append, ← ih]
    rfl
  | next hStep _ _ ihBelow ihLater =>
    rw [run_of_step hStep, run_append, ← ihBelow]
    exact ihLater

/-- **Every list of tasks has a descent**, however the types of the schema refer to each other. -/
theorem exists_descends (doc : Document) (tree : Tree) (tasks : List Task) :
    ∃ opened, Descends doc tree tasks opened (run doc tree tasks) := by
  -- `n` bounds the definitions that can still be opened; it falls with every descent and stays
  -- through the loop, which is the inner induction
  have hBounded : ∀ n tasks tree, unopened doc tree ≤ n →
      ∃ opened, Descends doc tree tasks opened (run doc tree tasks) := by
    intro n
    induction n using Nat.strongRecOn with
    | ind n ihDeeper =>
      intro tasks
      induction tasks with
      | nil =>
        intro tree _
        rw [run]
        exact ⟨[], .done⟩
      | cons task rest ihLoop =>
        intro tree hLe
        cases hStep : step doc tree task with
        | error e =>
          rw [run_of_step_eq_error hStep]
          exact ⟨[], .failed hStep⟩
        | ok after =>
          obtain ⟨tree', added⟩ := after
          have hBelow : unopened doc tree' ≤ n
              ∧ ∃ below, Descends doc tree' added below (run doc tree' added) := by
            rcases step_measure hStep with hLess | ⟨hSame, rfl⟩
            · exact ⟨by omega, ihDeeper _ (by omega) added tree' le_rfl⟩
            · rw [run]
              exact ⟨by omega, [], .done⟩
          obtain ⟨hLe', below, hBelow⟩ := hBelow
          rw [run_of_step hStep, run_append]
          cases hRun : run doc tree' added with
          | error e =>
            rw [hRun] at hBelow
            exact ⟨_, .failedBelow hStep hBelow⟩
          | ok tree'' =>
            have hShrunk := unopened_le_of_run hRun
            obtain ⟨later, hLater⟩ := ihLoop tree'' (by omega)
            rw [hRun] at hBelow
            exact ⟨_, .next hStep hBelow hLater⟩
  exact hBounded _ tasks tree le_rfl

/-- **There is one descent only.** -/
theorem Descends.unique {opened opened' : List Definition} {result result' : Except WalkError Tree}
    (h : Descends doc tree tasks opened result) (h' : Descends doc tree tasks opened' result') :
    opened' = opened ∧ result' = result := by
  refine ⟨?_, h'.eq_run.trans h.eq_run.symm⟩
  induction h generalizing opened' result' with
  | done =>
    cases h'
    rfl
  | failed hStep =>
    cases h' with
    | failed _ => rfl
    | failedBelow hStep' _ => rw [hStep] at hStep'; cases hStep'
    | next hStep' _ _ => rw [hStep] at hStep'; cases hStep'
  | failedBelow hStep hBelow ih =>
    cases h' with
    | failed hStep' => rw [hStep] at hStep'; cases hStep'
    | failedBelow hStep' hBelow' =>
      rw [hStep] at hStep'
      cases hStep'
      rw [ih hBelow']
    | next hStep' hBelow' _ =>
      rw [hStep] at hStep'
      cases hStep'
      cases hBelow.eq_run.trans hBelow'.eq_run.symm
  | next hStep hBelow hLater ihBelow ihLater =>
    cases h' with
    | failed hStep' => rw [hStep] at hStep'; cases hStep'
    | failedBelow hStep' hBelow' =>
      rw [hStep] at hStep'
      cases hStep'
      cases hBelow.eq_run.trans hBelow'.eq_run.symm
    | next hStep' hBelow' hLater' =>
      rw [hStep] at hStep'
      cases hStep'
      cases hBelow.eq_run.trans hBelow'.eq_run.symm
      rw [ihBelow hBelow', ihLater hLater']

/-! ### What is opened -/

/-- A task opens the definition of a name that has no binding, or it adds no entry and no task. -/
theorem Steps.opened?_cases (h : Steps doc tree task tree' added) :
    (opened? doc tree task = none ∧ added = [] ∧ tree'.entries = tree.entries)
    ∨ ∃ d, opened? doc tree task = some d ∧ doc.get? d.name = some d
      ∧ tree.bindings.contains d.name = false ∧ tree' = recordDefinition doc tree d := by
  cases h with
  | known hKnown => exact .inl ⟨by simp [opened?, hKnown], rfl, rfl⟩
  | primitive hNew hPrimitive => exact .inl ⟨by simp [opened?, hPrimitive], rfl, rfl⟩
  | @opened d _ hNew hNot hGet hRoot =>
    exact .inr ⟨d, by simp [opened?, hNew, hNot, hRoot, hGet], hGet, hNew, rfl⟩
  | field => exact .inl ⟨rfl, rfl, rfl⟩
  | operation => exact .inl ⟨rfl, rfl, entries_recordOperation ..⟩

/-- What was opened between two trees: no name twice, each without a binding before and with one
after, and together all that was entered. -/
structure OpenedBetween (doc : Document) (tree tree' : Tree) (opened : List Definition) : Prop where
  nodup : (opened.map (·.name)).Nodup
  defined : ∀ d ∈ opened, doc.get? d.name = some d
  fresh : ∀ d ∈ opened, tree.bindings.contains d.name = false
  bound : ∀ d ∈ opened, tree'.bindings.contains d.name = true
  keeps : ∀ name, tree.bindings.contains name = true → tree'.bindings.contains name = true
  entered : ∀ name, tree'.entries.contains name = true ↔
    tree.entries.contains name = true ∨ ∃ d ∈ opened, d.name = name

theorem OpenedBetween.refl (doc : Document) (tree : Tree) : OpenedBetween doc tree tree [] where
  nodup := List.nodup_nil
  defined := by simp
  fresh := by simp
  bound := by simp
  keeps _ h := h
  entered := by simp

theorem OpenedBetween.trans {tree'' : Tree} {opened later : List Definition}
    (h : OpenedBetween doc tree tree' opened) (h' : OpenedBetween doc tree' tree'' later) :
    OpenedBetween doc tree tree'' (opened ++ later) where
  nodup := by
    rw [List.map_append, List.nodup_append]
    refine ⟨h.nodup, h'.nodup, ?_⟩
    intro first hFirst second hSecond hSame
    obtain ⟨d, hd, rfl⟩ := List.mem_map.1 hFirst
    obtain ⟨e, he, rfl⟩ := List.mem_map.1 hSecond
    -- the first is bound in the middle, where the second is still fresh
    have hBound := h.bound d hd
    rw [hSame, h'.fresh e he] at hBound
    cases hBound
  defined d hd := (List.mem_append.1 hd).elim (h.defined d) (h'.defined d)
  fresh d hd := by
    rcases List.mem_append.1 hd with hd | hd
    · exact h.fresh d hd
    · rw [← Bool.not_eq_true]
      intro hOld
      have hKept := h.keeps d.name hOld
      rw [h'.fresh d hd] at hKept
      cases hKept
  bound d hd := (List.mem_append.1 hd).elim (fun hd => h'.keeps _ (h.bound d hd)) (h'.bound d)
  keeps name hOld := h'.keeps name (h.keeps name hOld)
  entered name := by
    rw [h'.entered, h.entered]
    simp only [List.mem_append, or_and_right, exists_or, or_assoc]

theorem Steps.openedBetween (h : Steps doc tree task tree' added) :
    OpenedBetween doc tree tree' (opened? doc tree task).toList := by
  have hKeeps : ∀ name, tree.bindings.contains name = true → tree'.bindings.contains name = true :=
    fun name hOld => (h.contains_bindings_iff name).2 (.inl hOld)
  rcases h.opened?_cases with ⟨hNone, -, hEntries⟩ | ⟨d, hSome, hGet, hNew, rfl⟩
  · rw [hNone]
    refine { OpenedBetween.refl doc tree with bound := by simp, keeps := hKeeps, entered := ?_ }
    simp [hEntries]
  · rw [hSome, Option.toList_some]
    have hBound : (recordDefinition doc tree d).bindings.contains d.name = true := by
      show (recordBinding tree (.pending d.name)).bindings.contains d.name = true
      exact contains_recordBinding_iff.2 (.inr rfl)
    refine ⟨by simp, by simpa using hGet, by simpa using hNew, by simpa using hBound, hKeeps, ?_⟩
    intro name
    show (tree.entries.insert d.name (entry doc d)).contains name = true ↔ _
    rw [Dict.contains, Dict.get?_insert]
    by_cases hName : name = d.name
    · simp [hName]
    · simp [hName, Ne.symm hName, Dict.contains]

/-- **A descent opens no name twice.**  This holds of one that fails too, which ends in some tree
that the walk then drops. -/
theorem Descends.openedBetween {opened : List Definition} {result : Except WalkError Tree}
    (h : Descends doc tree tasks opened result) :
    ∃ final, OpenedBetween doc tree final opened ∧ ∀ tree', result = .ok tree' → final = tree' := by
  induction h with
  | @done tree => exact ⟨tree, .refl doc tree, fun tree' hEnd => Except.ok.inj hEnd⟩
  | @failed tree task rest e hStep => exact ⟨tree, .refl doc tree, nofun⟩
  | failedBelow hStep _ ih =>
    obtain ⟨final, hBelow, -⟩ := ih
    exact ⟨final, (steps_of_step hStep).openedBetween.trans hBelow, nofun⟩
  | next hStep _ _ ihBelow ihLater =>
    obtain ⟨middle, hBelow, hMiddle⟩ := ihBelow
    obtain ⟨final, hLater, hFinal⟩ := ihLater
    obtain rfl := hMiddle _ rfl
    exact ⟨final, ((steps_of_step hStep).openedBetween.trans hBelow).trans hLater, hFinal⟩

/-- **The walk ends on every schema and opens each definition at most once.**  Task by task it
cannot go on for ever.  As a recursion it has one finite descent, which ends as the walk does, in a
tree or with an error.  The definitions that are opened on the way belong to the schema and have
different names; if the walk gives a tree, they are those with an entry. -/
theorem walk_ends_and_opens_once (doc : Document) :
    (∀ states : ℕ → Tree × List Task, ¬∀ n, Next doc (states n) (states (n + 1)))
    ∧ ∃ opened, Descends doc .empty (doc.definitions.flatMap (seedTasks doc)) opened
        (Tree.ofDocument doc)
      ∧ (∀ opened' result,
        Descends doc .empty (doc.definitions.flatMap (seedTasks doc)) opened' result →
        opened' = opened ∧ result = Tree.ofDocument doc)
      ∧ (opened.map (·.name)).Nodup
      ∧ (∀ d ∈ opened, d ∈ doc.definitions)
      ∧ ∀ tree, Tree.ofDocument doc = .ok tree →
        ∀ name, tree.entries.contains name = true ↔ ∃ d ∈ opened, d.name = name := by
  obtain ⟨opened, hDescends⟩ :=
    exists_descends doc .empty (doc.definitions.flatMap (seedTasks doc))
  obtain ⟨final, hOpened, hFinal⟩ := hDescends.openedBetween
  refine ⟨not_forall_next doc, opened, hDescends, fun _ _ h => hDescends.unique h, hOpened.nodup,
    fun d hd => Schema.Table.mem_of_get? (hOpened.defined d hd), ?_⟩
  intro tree hTree name
  obtain rfl := hFinal tree hTree
  rw [hOpened.entered]
  simp [Tree.empty, Dict.contains]

end ResolverScaffold.Walk
