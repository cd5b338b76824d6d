import ResolverScaffold.Proofs.Generation.Totality

/-!
# Binding again and again

A tree may be bound in many rounds, each with packages of its own.  `bind_cases_of_round`
says what one round can do: a package is missing and nothing changes, or every
pending binding is decided.  Both leave a decided binding alone (`get?_bind`), and
a tree with nothing pending stays the same tree (`decideAll_of_settled`), so the
first round that finds its packages is the last one to change anything.
-/

namespace ResolverScaffold.Autobind

/-- What one call of the binder is given. -/
structure Round where
  introspect : Introspector
  home : ModelHome
  sources : List BindSource

/-- The tree after a round, and what went wrong. -/
def Round.bind (r : Round) (tree : Tree) : Tree × Option BindError :=
  Autobind.bind r.introspect r.home r.sources tree

/-- The tree after some rounds, whatever went wrong in each. -/
def afterRounds (rounds : List Round) (tree : Tree) : Tree :=
  rounds.foldl (fun tree r => (r.bind tree).1) tree

variable {tree : Tree}

/-! ### One round -/

theorem bind_of_isResolved {b : Binding} (h : b.isResolved = true) (placement : Placement) :
    b.bind placement = b := by
  rw [Binding.bind, if_pos h]

theorem get?_decideAll_of_pending (home : ModelHome) (listed : List Package) (own : Package)
    {key : String} {b : Binding} (hGet : tree.bindings.get? key = some b)
    (hPending : b.isResolved = false) :
    (decideAll home listed own tree).bindings.get? key
      = some { b with placement := placement home listed own b.name } := by
  rw [get?_decideAll, hGet, Option.map_some, Binding.bind, hPending]
  rfl

/-- A tree with nothing pending has nothing to decide. -/
theorem decideAll_of_settled (h : Settled tree) (home : ModelHome) (listed : List Package)
    (own : Package) : decideAll home listed own tree = tree := by
  have hBindings : (decideAll home listed own tree).bindings = tree.bindings := by
    refine Dict.ext_get? fun name => ?_
    rw [get?_decideAll]
    cases hGet : tree.bindings.get? name with
    | none => rfl
    | some b => exact congrArg some (bind_of_isResolved (h name b hGet) _)
  calc decideAll home listed own tree
      = { tree with bindings := (decideAll home listed own tree).bindings } := rfl
    _ = tree := by rw [hBindings]

theorem unbound?_cases (tree : Tree) :
    unbound? tree = none ∨ ∃ name usedBy, unbound? tree = some (.unbound name usedBy) := by
  rw [unbound?]
  split
  · exact .inr ⟨_, _, rfl⟩
  · split
    · exact .inr ⟨_, _, rfl⟩
    · exact .inl rfl

/-- **What a round can do**: a package could not be loaded and the tree is as before, or every
pending binding is decided. -/
theorem bind_cases_of_round (r : Round) (tree : Tree) :
    ((r.bind tree).1 = tree
      ∧ ((∃ module path reason, (r.bind tree).2 = some (.sourceUnavailable module path reason))
        ∨ ∃ path reason, (r.bind tree).2 = some (.homeUnavailable path reason)))
    ∨ ∃ listed own, (r.bind tree).1 = decideAll r.home listed own tree
      ∧ ((r.bind tree).2 = none
        ∨ ∃ name usedBy, (r.bind tree).2 = some (.unbound name usedBy)) := by
  rw [Round.bind, bind]
  split
  · rename_i e hSources
    obtain ⟨s, -, reason, -, rfl⟩ := exists_of_loadSources_eq_error hSources
    exact .inl ⟨rfl, .inl ⟨s.module, s.path, reason, rfl⟩⟩
  · rename_i listed _
    split
    · rename_i e hHome
      obtain ⟨reason, -, rfl⟩ := exists_of_loadHome_eq_error hHome
      exact .inl ⟨rfl, .inr ⟨r.home.dir, reason, rfl⟩⟩
    · rename_i own _
      exact .inr ⟨listed, own, rfl, unbound?_cases _⟩

/-- A round leaves a decided binding alone. -/
theorem get?_bind (r : Round) {name : String} {b : Binding}
    (h : tree.bindings.get? name = some b) (hResolved : b.isResolved = true) :
    (r.bind tree).1.bindings.get? name = some b := by
  rcases bind_cases_of_round r tree with ⟨hSame, -⟩ | ⟨listed, own, hDecide, -⟩
  · rw [hSame]
    exact h
  · rw [hDecide, get?_decideAll, h, Option.map_some, bind_of_isResolved hResolved]

theorem bind_of_settled (r : Round) (h : Settled tree) : (r.bind tree).1 = tree := by
  rcases bind_cases_of_round r tree with ⟨hSame, -⟩ | ⟨listed, own, hDecide, -⟩
  · exact hSame
  · rw [hDecide, decideAll_of_settled h]

/-- A round that loads its packages leaves nothing pending, even if a reference has no binding. -/
theorem settled_bind (r : Round)
    (h : (r.bind tree).2 = none ∨ ∃ name usedBy, (r.bind tree).2 = some (.unbound name usedBy)) :
    Settled (r.bind tree).1 := by
  rcases bind_cases_of_round r tree with ⟨-, hFail⟩ | ⟨listed, own, hDecide, -⟩
  · -- no outcome is both
    rcases hFail with ⟨module, path, reason, hFail⟩ | ⟨path, reason, hFail⟩ <;> simp [hFail] at h
  · rw [hDecide]
    exact settled_decideAll r.home listed own tree

/-! ### All rounds -/

theorem afterRounds_cons (r : Round) (rounds : List Round) (tree : Tree) :
    afterRounds (r :: rounds) tree = afterRounds rounds (r.bind tree).1 := rfl

theorem get?_afterRounds (rounds : List Round) {name : String} {b : Binding}
    (h : tree.bindings.get? name = some b) (hResolved : b.isResolved = true) :
    (afterRounds rounds tree).bindings.get? name = some b := by
  induction rounds generalizing tree with
  | nil => exact h
  | cons r rounds ih =>
    rw [afterRounds_cons]
    exact ih (get?_bind r h hResolved)

theorem afterRounds_of_settled (rounds : List Round) (h : Settled tree) :
    afterRounds rounds tree = tree := by
  induction rounds with
  | nil => rfl
  | cons r rounds ih => rw [afterRounds_cons, bind_of_settled r h, ih]

/-- **Decisions are final.**  Take any rounds on any tree and one round among them.  If one of its
packages cannot be loaded, the tree is as it was.  What was decided before it stays, in this round
and in all later ones.  If it ends otherwise, nothing is pending any more, and no later round
changes the tree. -/
theorem decisions_are_final (tree : Tree) (before : List Round) (r : Round) (later : List Round) :
    ((∃ module path reason,
        (r.bind (afterRounds before tree)).2 = some (.sourceUnavailable module path reason))
      ∨ (∃ path reason,
        (r.bind (afterRounds before tree)).2 = some (.homeUnavailable path reason)) →
      (r.bind (afterRounds before tree)).1 = afterRounds before tree)
    ∧ (∀ name b, (afterRounds before tree).bindings.get? name = some b → b.isResolved = true →
      (r.bind (afterRounds before tree)).1.bindings.get? name = some b
      ∧ (afterRounds (before ++ r :: later) tree).bindings.get? name = some b)
    ∧ ((r.bind (afterRounds before tree)).2 = none
      ∨ (∃ name usedBy, (r.bind (afterRounds before tree)).2 = some (.unbound name usedBy)) →
      (∀ name b, (r.bind (afterRounds before tree)).1.bindings.get? name = some b →
        b.isResolved = true)
      ∧ afterRounds (before ++ r :: later) tree = (r.bind (afterRounds before tree)).1) := by
  have hSplit : afterRounds (before ++ r :: later) tree
      = afterRounds later (r.bind (afterRounds before tree)).1 := List.foldl_append
  refine ⟨fun hFail => ?_, fun name b hGet hResolved => ?_, fun hEnd => ?_⟩
  · rcases bind_cases_of_round r (afterRounds before tree) with
      ⟨hSame, -⟩ | ⟨listed, own, -, hEnd⟩
    · exact hSame
    · rcases hEnd with hNone | ⟨name, usedBy, hUnbound⟩
      · simp [hNone] at hFail
      · simp [hUnbound] at hFail
  · have hRound := get?_bind r hGet hResolved
    rw [hSplit]
    exact ⟨hRound, get?_afterRounds later hRound hResolved⟩
  · have hSettled := settled_bind r hEnd
    rw [hSplit]
    exact ⟨hSettled, afterRounds_of_settled later hSettled⟩

end ResolverScaffold.Autobind

/-! ### Three rounds on the ring

The ring has lost the binding of `Int`.  First the models cannot be read, then nothing is there, and
at last somebody has written `User`.
-/

namespace ResolverScaffold.Sample

def lostTree : Tree := { ringTree with bindings := ringTree.bindings.erase "Int" }

def lostBound : Tree := { ringBound with bindings := ringBound.bindings.erase "Int" }

def brokenRound : Autobind.Round := ⟨fun _ _ => .error (.invalid "broken"), ringHome, []⟩

def firstRound : Autobind.Round := ⟨noPackage, ringHome, []⟩

def lateRound : Autobind.Round :=
  ⟨fun module _ => .ok ((Package.empty module).declare "User" ⟨module, "user.rs"⟩), ringHome,
    [⟨"users", "users.rs"⟩]⟩

end ResolverScaffold.Sample

namespace ResolverScaffold.Autobind

theorem rounds_on_ring :
    (Sample.brokenRound.bind Sample.lostTree).2 = some (.homeUnavailable "src" "broken")
    ∧ (Sample.brokenRound.bind Sample.lostTree).1 = Sample.lostTree
    ∧ Sample.firstRound.bind Sample.lostTree
      = (Sample.lostBound, some (.unbound "Int" "Middleware.auth"))
    ∧ afterRounds [Sample.brokenRound, Sample.firstRound, Sample.lateRound] Sample.lostTree
      = Sample.lostBound := by
  have hBroken : (Sample.brokenRound.bind Sample.lostTree).2
      = some (.homeUnavailable "src" "broken") := rfl
  have hFirst : Sample.firstRound.bind Sample.lostTree
      = (Sample.lostBound, some (.unbound "Int" "Middleware.auth")) := by decide +kernel
  obtain ⟨hSame, -⟩ := decisions_are_final Sample.lostTree [] Sample.brokenRound []
  obtain ⟨-, -, hFinal⟩ := decisions_are_final Sample.lostTree [Sample.brokenRound]
    Sample.firstRound [Sample.lateRound]
  have hStart : afterRounds [Sample.brokenRound] Sample.lostTree = Sample.lostTree :=
    hSame (.inr ⟨_, _, hBroken⟩)
  rw [hStart, hFirst] at hFinal
  exact ⟨hBroken, hStart, hFirst, (hFinal (.inr ⟨_, _, rfl⟩)).2⟩

end ResolverScaffold.Autobind
