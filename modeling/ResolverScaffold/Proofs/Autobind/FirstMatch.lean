import Mathlib
import ResolverScaffold.Proofs.Autobind.Rounds

/-!
# The first match binds

Which declaration decides a pending binding can be said without loading packages
into a list: `FirstMatch` looks at the listed sources in their order, then at the
declarations beside the model file in theirs, and falls back on the model file.

A source stands for the declaration it has to offer (`offer?`).  Loading keeps the
offers and their order (`findSome?_of_loadSources`), so the placement that binding
computes is the only one that `FirstMatch` allows (`firstMatch_iff`).
-/

namespace ResolverScaffold.Autobind

/-- A listed source that is not that of the generated models. -/
def Counts (home : ModelHome) (s : BindSource) : Prop :=
  s.module ≠ home.module ∧ s.module ≠ home.generatedModule

instance (home : ModelHome) (s : BindSource) : Decidable (Counts home s) :=
  inferInstanceAs (Decidable (_ ∧ _))

/-- The declarations of a name at a place, first one first; none if there is no package. -/
def declaredAt (introspect : Introspector) (module path name : String) : List Declaration :=
  match introspect module path with
  | .ok package => package.declarationsOf name
  | .error _ => []

/-- How the type of a name is placed. -/
inductive FirstMatch (introspect : Introspector) (home : ModelHome) (sources : List BindSource)
    (name : String) : Placement → Prop
  /-- The first source that declares it has it, and there the first declaration. -/
  | listed {before after : List BindSource} {s : BindSource} {d : Declaration}
      {later : List Declaration} : sources = before ++ s :: after → Counts home s →
      (∀ e ∈ before, Counts home e → declaredAt introspect e.module e.path name = []) →
      declaredAt introspect s.module s.path name = d :: later →
      FirstMatch introspect home sources name (.external d.module)
  /-- No source declares it, and it is first declared beside the model file here. -/
  | beside {earlier later : List Declaration} {d : Declaration} :
      (∀ e ∈ sources, Counts home e → declaredAt introspect e.module e.path name = []) →
      declaredAt introspect home.module home.dir name = earlier ++ d :: later →
      (∀ e ∈ earlier, e.fileName = home.generatedFile) → d.fileName ≠ home.generatedFile →
      FirstMatch introspect home sources name (.external d.module)
  /-- No source declares it, and nothing but the model file does. -/
  | generated :
      (∀ e ∈ sources, Counts home e → declaredAt introspect e.module e.path name = []) →
      (∀ d ∈ declaredAt introspect home.module home.dir name, d.fileName = home.generatedFile) →
      FirstMatch introspect home sources name (.generated home.generatedModule)

section FirstMatch

variable {introspect : Introspector} {home : ModelHome} {sources : List BindSource}
  {name : String}

/-! ### What sources offer -/

/-- The declaration that a source has to offer for a name. -/
def offer? (introspect : Introspector) (home : ModelHome) (name : String) (s : BindSource) :
    Option Declaration :=
  if Counts home s then (declaredAt introspect s.module s.path name).head? else none

theorem offer?_eq_some_iff {s : BindSource} {d : Declaration} :
    offer? introspect home name s = some d ↔
      Counts home s ∧ ∃ later, declaredAt introspect s.module s.path name = d :: later := by
  rw [offer?]
  by_cases hCounts : Counts home s
  · rw [if_pos hCounts, List.head?_eq_some_iff]
    simp [hCounts]
  · rw [if_neg hCounts]
    simp [hCounts]

theorem offer?_eq_none_iff {s : BindSource} :
    offer? introspect home name s = none ↔
      (Counts home s → declaredAt introspect s.module s.path name = []) := by
  rw [offer?]
  by_cases hCounts : Counts home s
  · rw [if_pos hCounts, List.head?_eq_none_iff]
    simp [hCounts]
  · rw [if_neg hCounts]
    simp [hCounts]

/-! ### Loading -/

theorem loadSources_cons_of_not_counts {s : BindSource} (h : ¬Counts home s) :
    loadSources introspect home (s :: sources) = loadSources introspect home sources := by
  have hSkip : decide (s.module ≠ home.module ∧ s.module ≠ home.generatedModule) = false :=
    decide_eq_false h
  rw [loadSources, List.filter_cons, hSkip, if_neg Bool.false_ne_true, loadSources]

theorem loadSources_cons_of_counts {s : BindSource} (h : Counts home s) {listed : List Package} :
    loadSources introspect home (s :: sources) = .ok listed ↔
      ∃ package more, introspect s.module s.path = .ok package
        ∧ loadSources introspect home sources = .ok more ∧ listed = package :: more := by
  have hTake : decide (s.module ≠ home.module ∧ s.module ≠ home.generatedModule) = true :=
    decide_eq_true h
  rw [loadSources, List.filter_cons, hTake, if_pos rfl, List.mapM_cons, bind_eq_ok_iff]
  simp only [bind_eq_ok_iff, pure_eq_ok_iff]
  constructor
  · rintro ⟨package, hPackage, more, hMore, rfl⟩
    split at hPackage
    · rename_i found hFound
      cases hPackage
      exact ⟨package, more, hFound, hMore, rfl⟩
    · cases hPackage
  · rintro ⟨package, more, hPackage, hMore, rfl⟩
    exact ⟨package, by rw [hPackage], more, hMore, rfl⟩

/-- Every source that counts was there. -/
theorem exists_package_of_loadSources {listed : List Package}
    (h : loadSources introspect home sources = .ok listed) {s : BindSource} (hs : s ∈ sources)
    (hCounts : Counts home s) : ∃ package, introspect s.module s.path = .ok package := by
  have hMem : s ∈ sources.filter
      fun s => s.module ≠ home.module ∧ s.module ≠ home.generatedModule :=
    List.mem_filter.2 ⟨hs, decide_eq_true hCounts⟩
  obtain ⟨package, hPackage⟩ := exists_of_mapM_eq_ok h s hMem
  split at hPackage
  · rename_i found hFound
    exact ⟨found, hFound⟩
  · cases hPackage

/-- **Loading keeps what the sources offer**, and the order in which they do. -/
theorem findSome?_of_loadSources {listed : List Package}
    (h : loadSources introspect home sources = .ok listed) (name : String) :
    listed.findSome? (·.declares? name) = sources.findSome? (offer? introspect home name) := by
  induction sources generalizing listed with
  | nil =>
    cases h
    rfl
  | cons s sources ih =>
    rw [List.findSome?_cons]
    by_cases hCounts : Counts home s
    · obtain ⟨package, more, hPackage, hMore, rfl⟩ := (loadSources_cons_of_counts hCounts).1 h
      have hOffer : offer? introspect home name s = package.declares? name := by
        rw [offer?, if_pos hCounts, declaredAt, hPackage, Package.declares?]
      rw [hOffer, List.findSome?_cons, ih hMore]
    · rw [loadSources_cons_of_not_counts hCounts] at h
      have hOffer : offer? introspect home name s = none := by rw [offer?, if_neg hCounts]
      rw [hOffer, ih h]

theorem declarationsOf_of_loadHome {own : Package} (h : loadHome introspect home = .ok own)
    (name : String) :
    own.declarationsOf name = declaredAt introspect home.module home.dir name := by
  rw [loadHome] at h
  rw [declaredAt]
  split at h
  · rename_i hOwn
    cases h
    rw [hOwn]
  · -- there is no directory yet
    rename_i hMissing
    cases h
    rw [hMissing]
    rfl
  · cases h

/-! ### The placement -/

/-- **The placement that binding computes is the first match**, and the only one. -/
theorem firstMatch_iff {listed : List Package} {own : Package}
    (hListed : loadSources introspect home sources = .ok listed)
    (hOwn : loadHome introspect home = .ok own) {p : Placement} :
    FirstMatch introspect home sources name p ↔ p = placement home listed own name := by
  have hNone : sources.findSome? (offer? introspect home name) = none ↔
      ∀ e ∈ sources, Counts home e → declaredAt introspect e.module e.path name = [] := by
    simp only [List.findSome?_eq_none_iff, offer?_eq_none_iff]
  rw [placement, findSome?_of_loadSources hListed, declarationsOf_of_loadHome hOwn]
  constructor
  · intro h
    cases h with
    | @listed before after s d later hSplit hCounts hBefore hHere =>
      have hFirst : sources.findSome? (offer? introspect home name) = some d :=
        List.findSome?_eq_some_iff.2 ⟨before, s, after, hSplit,
          offer?_eq_some_iff.2 ⟨hCounts, later, hHere⟩,
          fun e he => offer?_eq_none_iff.2 (hBefore e he)⟩
      rw [hFirst]
    | @beside earlier later d hSources hSplit hEarlier hHere =>
      have hFirst : (declaredAt introspect home.module home.dir name).find?
          (·.fileName ≠ home.generatedFile) = some d := by
        refine List.find?_eq_some_iff_append.2 ⟨by simpa using hHere, earlier, later, hSplit, ?_⟩
        intro e he
        simpa using hEarlier e he
      rw [hNone.2 hSources, hFirst]
    | generated hSources hOnly =>
      have hFirst : (declaredAt introspect home.module home.dir name).find?
          (·.fileName ≠ home.generatedFile) = none := by
        refine List.find?_eq_none.2 fun d hd => ?_
        simpa using hOnly d hd
      rw [hNone.2 hSources, hFirst]
  · rintro rfl
    split
    · rename_i d hFirst
      obtain ⟨before, s, after, hSplit, hHere, hBefore⟩ := List.findSome?_eq_some_iff.1 hFirst
      obtain ⟨hCounts, later, hHere⟩ := offer?_eq_some_iff.1 hHere
      exact .listed hSplit hCounts (fun e he => offer?_eq_none_iff.1 (hBefore e he)) hHere
    · rename_i hSources
      split
      · rename_i d hFirst
        obtain ⟨hHere, earlier, later, hSplit, hEarlier⟩ := List.find?_eq_some_iff_append.1 hFirst
        refine .beside (hNone.1 hSources) hSplit (fun e he => ?_) (by simpa using hHere)
        simpa using hEarlier e he
      · rename_i hOnly
        refine .generated (hNone.1 hSources) fun d hd => ?_
        simpa using List.find?_eq_none.1 hOnly d hd

end FirstMatch

theorem keys_decideAll (home : ModelHome) (listed : List Package) (own : Package) (tree : Tree) :
    (decideAll home listed own tree).bindings.keys = tree.bindings.keys := by
  rw [decideAll, Dict.mapValues, Dict.keys, Dict.keys, List.map_map]
  rfl

theorem isPrimitive_bind_placement (b : Binding) (home : ModelHome) (listed : List Package)
    (own : Package) :
    (b.bind (placement home listed own b.name)).isPrimitive = b.isPrimitive := by
  obtain ⟨name, ident, before⟩ := b
  cases before with
  | pending =>
    -- a pending binding is not primitive, and binding never makes it so
    show (placement home listed own name == .primitive) = false
    rw [placement]
    split
    · rfl
    · split <;> rfl
  | primitive => rfl
  | external module => rfl
  | generated module => rfl

/-- **The first match binds.**  If a tree is bound, all sources that count were there.  A decided
binding is as before.  A pending one is now placed where the first match says, and no other
placement is a first match.  Names, Rust types, primitives and keys stay, and nothing but the
bindings changes. -/
theorem first_match_binds {introspect : Introspector} {home : ModelHome}
    {sources : List BindSource} {tree bound : Tree}
    (hBound : bindAll introspect home sources tree = .ok bound) :
    (∀ s ∈ sources, Counts home s → ∃ package, introspect s.module s.path = .ok package)
    ∧ (∀ key b, tree.bindings.get? key = some b → b.isResolved = true →
      bound.bindings.get? key = some b)
    ∧ (∀ key b, tree.bindings.get? key = some b → b.isResolved = false →
      ∃ p, bound.bindings.get? key = some { b with placement := p }
        ∧ ∀ q, FirstMatch introspect home sources b.name q ↔ q = p)
    ∧ (∀ key b b', tree.bindings.get? key = some b → bound.bindings.get? key = some b' →
      b'.name = b.name ∧ b'.ident = b.ident ∧ b'.isPrimitive = b.isPrimitive)
    ∧ bound.bindings.keys = tree.bindings.keys
    ∧ bound = { tree with bindings := bound.bindings } := by
  obtain ⟨listed, own, hListed, hOwn, rfl, -⟩ := bindAll_eq_ok_iff.1 hBound
  refine ⟨fun s hs hCounts => exists_package_of_loadSources hListed hs hCounts, ?_, ?_, ?_,
    keys_decideAll home listed own tree, rfl⟩
  · intro key b hGet hResolved
    rw [get?_decideAll, hGet, Option.map_some, bind_of_isResolved hResolved]
  · intro key b hGet hPending
    have hAfter := get?_decideAll_of_pending home listed own hGet hPending
    exact ⟨placement home listed own b.name, hAfter, fun q => firstMatch_iff hListed hOwn⟩
  · intro key b b' hGet hGet'
    rw [get?_decideAll, hGet, Option.map_some, Option.some.injEq] at hGet'
    subst hGet'
    refine ⟨?_, ?_, isPrimitive_bind_placement b home listed own⟩
    · rw [Binding.bind]
      split <;> rfl
    · rw [Binding.bind]
      split <;> rfl

end ResolverScaffold.Autobind

/-! ### The ring among packages

Two of the sources are the generated models under another path and do not count.  `User` is declared
by the last two sources and beside the model file, `Node` in the model file and after it in two
others, `Any` in the model file only.
-/

namespace ResolverScaffold.Sample

def crowdSources : List BindSource :=
  [⟨"crate", "own"⟩, ⟨"crate::model", "own"⟩, ⟨"empty", "empty.rs"⟩, ⟨"people", "people"⟩,
   ⟨"others", "others.rs"⟩]

def crowd : Introspector := fun module path =>
  let package := Package.empty module
  match path with
  | "own" => .ok (package.declare "User" ⟨"own", "own/user.rs"⟩)
  | "people" => .ok ((package.declare "User" ⟨"people::new", "people/new.rs"⟩).declare "User"
    ⟨"people::old", "people/old.rs"⟩)
  | "others.rs" => .ok (package.declare "User" ⟨"others", "others.rs"⟩)
  | "src" => .ok (((((package.declare "Any" ⟨"crate::model", "src/model.rs"⟩).declare "Node"
    ⟨"crate::model", "src/model.rs"⟩).declare "Node" ⟨"crate::node", "src/node.rs"⟩).declare "Node"
    ⟨"crate::spare", "src/spare.rs"⟩).declare "User" ⟨"crate::user", "src/user.rs"⟩)
  | _ => .ok package

def crowdBound : Tree :=
  { ringTree with
    bindings := .ofList
      [("User", ⟨"User", "User", .external "people::new"⟩),
       ("Node", ⟨"Node", "Node", .external "crate::node"⟩),
       ("Any", ⟨"Any", "Any", .generated "crate::model"⟩),
       ("Middleware", ⟨"Middleware", "Middleware", .generated "crate::model"⟩),
       ("Int", .primitive "Int" "i64"), ("ID", .primitive "ID" "String")] }

theorem bindAll_crowd :
    Autobind.bindAll crowd ringHome crowdSources ringTree = .ok crowdBound := by
  decide +kernel

end ResolverScaffold.Sample

namespace ResolverScaffold.Autobind

theorem first_match_in_crowd :
    bindAll Sample.crowd Sample.ringHome Sample.crowdSources Sample.ringTree = .ok Sample.crowdBound
    ∧ (∀ q, FirstMatch Sample.crowd Sample.ringHome Sample.crowdSources "User" q ↔
      q = .external "people::new")
    ∧ (∀ q, FirstMatch Sample.crowd Sample.ringHome Sample.crowdSources "Node" q ↔
      q = .external "crate::node")
    ∧ (∀ q, FirstMatch Sample.crowd Sample.ringHome Sample.crowdSources "Any" q ↔
      q = .generated "crate::model")
    ∧ Sample.crowdBound.bindings.get? "Int" = some (.primitive "Int" "i64") := by
  obtain ⟨-, hResolved, hPending, -⟩ := first_match_binds Sample.bindAll_crowd
  obtain ⟨user, hUser, hUserMatch⟩ := hPending "User" (.pending "User") rfl rfl
  obtain ⟨node, hNode, hNodeMatch⟩ := hPending "Node" (.pending "Node") rfl rfl
  obtain ⟨any, hAny, hAnyMatch⟩ := hPending "Any" (.pending "Any") rfl rfl
  cases hUser
  cases hNode
  cases hAny
  exact ⟨Sample.bindAll_crowd, hUserMatch, hNodeMatch, hAnyMatch, hResolved "Int" _ rfl rfl⟩

end ResolverScaffold.Autobind
