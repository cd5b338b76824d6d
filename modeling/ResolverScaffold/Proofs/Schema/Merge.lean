import Mathlib
import ResolverScaffold.Proofs.Schema.Coherence
import ResolverScaffold.Proofs.Schema.Names

/-!
# Definitions and their extensions

All blocks of a type, over all sources, end in one definition.  For a name that is
not built in, that definition is the first block of the name with every later one
added to it, in the order they are read (`Draft.Merges`).  So a plain definition has
to come first: after an extension of its own name it is refused as a second one
(`foldlM_add_cases`), although nothing else defines the type.

* `Statement.MayFollow`: which statement may stand after which.
* `about_eq_cons`: all that is said of a type is its plain definition and then its
  extensions.
* `Document.merges_iff_definition_first`: what becomes of sources in which every
  type has at most one plain definition.
-/

namespace ResolverScaffold

namespace Schema

/-- The names of the built-in definitions. -/
def Prelude.names : List String := definitions.map (·.name)

/-- The root types that a block names. -/
def Roots.named (r : Roots) : List String :=
  r.query.toList ++ r.mutation.toList ++ r.subscription.toList

theorem Roots.mem_named_iff {r : Roots} {name : String} :
    name ∈ r.named ↔ r.query = some name ∨ r.mutation = some name ∨ r.subscription = some name := by
  simp [named]

/-! ### Blocks of a type -/

namespace Statement

variable {s t : Statement} {d : Definition} {l : List Statement} {name : String}

def plain? : Statement → Option Definition
  | .define d => some d
  | .extend _ | .roots _ | .directive => none

def extension? : Statement → Option Definition
  | .extend d => some d
  | .define _ | .roots _ | .directive => none

/-- All that is said of a type. -/
def about (name : String) (l : List Statement) : List Definition :=
  l.filterMap fun s => s.block?.filter (·.name = name)

/-- The extensions of a type. -/
def extensionsOf (name : String) (l : List Statement) : List Definition :=
  l.filterMap fun s => s.extension?.filter (·.name = name)

theorem about_concat : about name (l ++ [s])
    = about name l ++ (s.block?.filter (·.name = name)).toList := by
  rw [about, List.filterMap_append]
  cases h : s.block?.filter (·.name = name) <;> simp [about, h]

theorem about_concat_of_ne (h : ∀ d, s.block? = some d → d.name ≠ name) :
    about name (l ++ [s]) = about name l := by
  have hNone : s.block?.filter (·.name = name) = none := by
    cases hs : s.block? <;> simp_all
  simp [about_concat, hNone]

theorem about_concat_self (h : s.block? = some d) :
    about d.name (l ++ [s]) = about d.name l ++ [d] := by
  simp [about_concat, h]

theorem mem_about_iff : d ∈ about name l ↔ (∃ s ∈ l, s.block? = some d) ∧ d.name = name := by
  simp [about, Option.filter_eq_some_iff, ← and_assoc]

theorem plain?_eq_some_iff : s.plain? = some d ↔ s = .define d := by
  cases s <;> simp [plain?]

theorem block?_cases (h : s.block? = some d) : s = .define d ∨ s = .extend d := by
  cases s <;> simp_all [block?]

/-- What the statement says of a type is not built in. -/
def IsUser (s : Statement) : Prop := ∀ d, s.block? = some d → d.builtin = false

/-- Whether `t` may stand after `s`: a plain definition only if nothing was said of its type, or if
the type is built in and no plain definition took its place. -/
def MayFollow (s t : Statement) : Prop :=
  ∀ b d, s.block? = some b → t = .define d → b.name = d.name →
    d.name ∈ Prelude.names ∧ s.plain? = none

theorem mayFollow_of_ne (h : ∀ d, t ≠ .define d) : MayFollow s t :=
  fun _ d _ hd => absurd hd (h d)

/-- **All that is said of a type** is its plain definition and then its extensions. -/
theorem about_eq_cons (h : l.Pairwise MayFollow) (hd : .define d ∈ l)
    (hName : d.name ∉ Prelude.names) : about d.name l = d :: extensionsOf d.name l := by
  obtain ⟨before, after, rfl⟩ := List.append_of_mem hd
  obtain ⟨-, hAfter, hBefore⟩ := List.pairwise_append.1 h
  have hNone : ∀ s ∈ before, ∀ b, s.block? = some b → b.name ≠ d.name := fun s hs b hb hSame =>
    hName (hBefore s hs _ List.mem_cons_self b d hb rfl hSame).1
  have hFirst : about d.name before = [] := by
    refine List.eq_nil_iff_forall_not_mem.2 fun b hb => ?_
    obtain ⟨⟨s, hs, hBlock⟩, hSame⟩ := mem_about_iff.1 hb
    exact hNone s hs b hBlock hSame
  have hEarly : extensionsOf d.name before = [] := by
    refine List.filterMap_eq_nil_iff.2 fun s hs => ?_
    cases s with
    | extend b => simpa [extension?] using hNone _ hs b rfl
    | define b => rfl
    | roots r => rfl
    | directive => rfl
  have hLater : about d.name after = extensionsOf d.name after := by
    refine List.filterMap_congr fun s hs => ?_
    cases s with
    | define b =>
      have hNe : b.name ≠ d.name := fun hSame =>
        hName (hSame ▸ ((List.pairwise_cons.1 hAfter).1 _ hs d b rfl rfl hSame.symm).1)
      simp [block?, extension?, hNe]
    | extend b => rfl
    | roots r => rfl
    | directive => rfl
  have hSelf : about d.name (.define d :: after) = d :: about d.name after :=
    List.filterMap_cons_some (by simp [block?])
  have hOther : extensionsOf d.name (.define d :: after) = extensionsOf d.name after :=
    List.filterMap_cons_none rfl
  rw [about, List.filterMap_append, extensionsOf, List.filterMap_append]
  change about d.name before ++ about d.name (.define d :: after)
    = d :: (extensionsOf d.name before ++ extensionsOf d.name (.define d :: after))
  rw [hFirst, hEarly, hSelf, hOther, hLater]
  rfl

end Statement

/-! ### One definition out of many blocks -/

namespace Definition

/-- The first of some blocks with all others added to it. -/
def merge : List Definition → Option Definition
  | [] => none
  | d :: more => some (more.foldl extend d)

theorem merge_concat (l : List Definition) (d : Definition) :
    merge (l ++ [d]) = some (((merge l).map (·.extend d)).getD d) := by
  cases l with
  | nil => rfl
  | cons first more => simp [merge, List.foldl_append]

/-- `e` has what `d` and the extensions have, in order, and nothing else. -/
structure IsMerged (d : Definition) (extensions : List Definition) (e : Definition) : Prop where
  fields : e.fields = d.fields ++ extensions.flatMap (·.fields)
  implements : e.implements = d.implements ++ extensions.flatMap (·.implements)
  members : e.members = d.members ++ extensions.flatMap (·.members)
  values : e.values = d.values ++ extensions.flatMap (·.values)
  directives : e.directives = d.directives ++ extensions.flatMap (·.directives)

theorem isMerged_foldl_extend (extensions : List Definition) (d : Definition) :
    d.IsMerged extensions (extensions.foldl extend d) := by
  induction extensions generalizing d with
  | nil => exact ⟨by simp, by simp, by simp, by simp, by simp⟩
  | cons x extensions ih =>
    obtain ⟨hFields, hImplements, hMembers, hValues, hDirectives⟩ := ih (d.extend x)
    constructor <;> rw [List.foldl_cons]
    · rw [hFields]; simp [extend]
    · rw [hImplements]; simp [extend]
    · rw [hMembers]; simp [extend]
    · rw [hValues]; simp [extend]
    · rw [hDirectives]; simp [extend]

theorem foldl_extend_frame (extensions : List Definition) (d : Definition) :
    (extensions.foldl extend d).location = d.location
      ∧ (extensions.foldl extend d).builtin = d.builtin := by
  induction extensions generalizing d with
  | nil => exact ⟨rfl, rfl⟩
  | cons x extensions ih => exact ih (d.extend x)

end Definition

/-! ### Drafts, name by name -/

namespace Draft

open Statement (MayFollow about)

variable {draft draft' : Draft} {d : Definition} {name : String} {s : Statement}
  {l : List Statement} {doc : Document}

theorem get?_append (hNew : draft.get? d.name = none) : (draft.append d hNew).get? name
    = (draft.get? name).or (if d.name = name then some d else none) := Table.get?_push hNew

theorem get?_update {target : String} {f : Definition → Definition}
    (hf : ∀ e, e.name = target → (f e).name = target) : (draft.update target f hf).get? name
    = if name = target then (draft.get? name).map f else draft.get? name := Table.get?_update hf

theorem get?_extend : (draft.extend d).get? name
    = if name = d.name then some (((draft.get? name).map (·.extend d)).getD d)
      else draft.get? name := by
  cases hGet : draft.get? d.name with
  | some e =>
    rw [extend_of_some hGet, get?_update]
    split
    · rename_i hName
      subst hName
      simp [hGet]
    · rfl
  | none =>
    rw [extend_of_none hGet, get?_append]
    split
    · rename_i hName
      subst hName
      simp [hGet]
    · rename_i hName
      simp [Ne.symm hName]

/-! ### What some statements make of a draft -/

/-- Each name that is not built in has all its blocks in one definition.  A built-in name has a
definition, which is the built-in one until a plain definition takes its place. -/
structure Merges (draft : Draft) (l : List Statement) : Prop where
  own : ∀ name, name ∉ Prelude.names → draft.get? name = Definition.merge (about name l)
  builtin : ∀ name, name ∈ Prelude.names → ∃ d, draft.get? name = some d
    ∧ (d.builtin = true ↔ ∀ e, .define e ∈ l → e.name ≠ name)

theorem merges_initial : initial.Merges [] where
  own name hName := by
    rw [Table.get?_eq_none_iff.2 hName]
    rfl
  builtin name hName := by
    have hAll : ∀ name ∈ Prelude.names, (initial.get? name).map (·.builtin) = some true := by decide
    obtain ⟨d, hGet, hBuiltin⟩ := Option.map_eq_some_iff.1 (hAll name hName)
    exact ⟨d, hGet, by simp [hBuiltin]⟩

theorem Merges.congr (h : draft.Merges l) (hSame : draft'.toTable = draft.toTable)
    (hBlock : s.block? = none) : draft'.Merges (l ++ [s]) where
  own name hName := by
    rw [Statement.about_concat_of_ne (by simp [hBlock]), ← h.own name hName, hSame]
  builtin name hName := by
    have hDefine : ∀ e, .define e ∈ l ++ [s] ↔ .define e ∈ l := by
      intro e
      have hNe : .define e ≠ s := by rintro rfl; cases hBlock
      simp [hNe]
    simp only [hDefine, hSame]
    exact h.builtin name hName

theorem Merges.extend (h : draft.Merges l) : (draft.extend d).Merges (l ++ [.extend d]) where
  own name hName := by
    rw [get?_extend]
    split
    · rename_i hSame
      subst hSame
      rw [Statement.about_concat_self rfl, Definition.merge_concat, h.own _ hName]
    · rename_i hOther
      rw [Statement.about_concat_of_ne, h.own _ hName]
      rintro e ⟨⟩
      exact Ne.symm hOther
  builtin name hName := by
    have hDefine : ∀ e, .define e ∈ l ++ [.extend d] ↔ Statement.define e ∈ l := by simp
    obtain ⟨e, hGet, hBuiltin⟩ := h.builtin name hName
    simp only [hDefine]
    rw [get?_extend, hGet]
    split
    · exact ⟨e.extend d, rfl, hBuiltin⟩
    · exact ⟨e, rfl, hBuiltin⟩

theorem about_concat_define {name : String} (hNe : name ≠ d.name) :
    about name (l ++ [.define d]) = about name l := by
  refine Statement.about_concat_of_ne ?_
  rintro e ⟨⟩
  exact Ne.symm hNe

/-- The first definition of a built-in name takes the place of the built-in one. -/
theorem Merges.replace (h : draft.Merges l) (hUser : d.builtin = false)
    (hFollows : ∀ s ∈ l, MayFollow s (.define d)) (hName : d.name ∈ Prelude.names) :
    ∃ draft', draft.define d = .ok draft' ∧ draft'.Merges (l ++ [.define d]) := by
  obtain ⟨e, hGet, hBuiltin⟩ := h.builtin _ hName
  have hStill : e.builtin = true := hBuiltin.2 fun b hb hSame => by
    have hPlain := (hFollows _ hb b d rfl rfl hSame).2
    cases hPlain
  refine ⟨draft.update d.name (fun _ => d) fun _ _ => rfl, ?_, ?_, ?_⟩
  · rw [define_of_some hGet, hStill, hUser]
    rfl
  · intro name hOwn
    have hNe : name ≠ d.name := fun hSame => hOwn (hSame ▸ hName)
    rw [get?_update, if_neg hNe, about_concat_define hNe, h.own name hOwn]
  · intro name hIn
    rw [get?_update]
    split
    · rename_i hSame
      subst hSame
      refine ⟨d, by simp [hGet], ?_⟩
      simp only [hUser, Bool.false_eq_true, false_iff]
      exact fun hNone => hNone d (by simp) rfl
    · rename_i hNe
      obtain ⟨e', hGet', hBuiltin'⟩ := h.builtin name hIn
      refine ⟨e', hGet', hBuiltin'.trans ?_⟩
      simp [or_imp, forall_and, Ne.symm hNe]

/-- A definition of a new name stands at the end. -/
theorem Merges.introduce (h : draft.Merges l) (hFollows : ∀ s ∈ l, MayFollow s (.define d))
    (hName : d.name ∉ Prelude.names) :
    ∃ draft', draft.define d = .ok draft' ∧ draft'.Merges (l ++ [.define d]) := by
  have hNothing : about d.name l = [] := by
    refine List.eq_nil_iff_forall_not_mem.2 fun b hb => ?_
    obtain ⟨⟨s, hs, hBlock⟩, hSame⟩ := Statement.mem_about_iff.1 hb
    exact hName (hFollows s hs b d hBlock rfl hSame).1
  have hNone : draft.get? d.name = none := by rw [h.own _ hName, hNothing]; rfl
  refine ⟨draft.append d hNone, define_of_none hNone, ?_, ?_⟩
  · intro name hOwn
    rw [get?_append]
    by_cases hSame : d.name = name
    · subst hSame
      rw [Statement.about_concat_self rfl, hNothing, hNone]
      simp [Definition.merge]
    · rw [if_neg hSame, Option.or_none, about_concat_define (Ne.symm hSame), h.own name hOwn]
  · intro name hIn
    have hNe : d.name ≠ name := fun hSame => hName (hSame ▸ hIn)
    obtain ⟨e, hGet, hBuiltin⟩ := h.builtin name hIn
    refine ⟨e, by rw [get?_append, hGet, Option.some_or], hBuiltin.trans ?_⟩
    simp [or_imp, forall_and, hNe]

theorem Merges.define (h : draft.Merges l) (hUser : d.builtin = false)
    (hFollows : ∀ s ∈ l, MayFollow s (.define d)) :
    ∃ draft', draft.define d = .ok draft' ∧ draft'.Merges (l ++ [.define d]) := by
  by_cases hName : d.name ∈ Prelude.names
  · exact h.replace hUser hFollows hName
  · exact h.introduce hFollows hName

/-- Otherwise it is refused. -/
theorem Merges.define_eq_error (h : draft.Merges l) (hUsers : ∀ s ∈ l, s.IsUser)
    (hFollows : ¬∀ s ∈ l, MayFollow s (.define d)) :
    ∃ e, draft.get? d.name = some e
      ∧ draft.define d = .error (.duplicate d.name e.location d.location) := by
  simp only [MayFollow, not_forall] at hFollows
  obtain ⟨s, hs, b, d', hBlock, hd, hSame, hNot⟩ := hFollows
  cases hd
  by_cases hName : d.name ∈ Prelude.names
  · obtain ⟨e, hGet, hBuiltin⟩ := h.builtin _ hName
    have hPlain : s = .define b := by
      rcases Statement.block?_cases hBlock with rfl | rfl
      · rfl
      · exact absurd ⟨hName, rfl⟩ hNot
    have hTaken : e.builtin = false := by
      refine Bool.eq_false_iff.2 fun hStill => ?_
      exact hBuiltin.1 hStill b (hPlain ▸ hs) hSame
    refine ⟨e, hGet, ?_⟩
    rw [define_of_some hGet, hTaken]
    rfl
  · have hMem : b ∈ about d.name l := Statement.mem_about_iff.2 ⟨⟨s, hs, hBlock⟩, hSame⟩
    cases hAbout : about d.name l with
    | nil => rw [hAbout] at hMem; cases hMem
    | cons first more =>
      have hGet : draft.get? d.name = some (more.foldl Definition.extend first) := by
        rw [h.own _ hName, hAbout]
        rfl
      obtain ⟨⟨s', hs', hFirst⟩, -⟩ := Statement.mem_about_iff.1
        (show first ∈ about d.name l from hAbout ▸ List.mem_cons_self)
      have hTaken : (more.foldl Definition.extend first).builtin = false :=
        (Definition.foldl_extend_frame more first).2.trans (hUsers s' hs' first hFirst)
      refine ⟨_, hGet, ?_⟩
      rw [define_of_some hGet, hTaken]
      rfl

/-- **Statements are read to their end, or up to a plain definition that may not follow.** -/
theorem foldlM_add_cases (hUsers : ∀ s ∈ l, s.IsUser) :
    (l.Pairwise MayFollow ∧ ∃ draft, l.foldlM add initial = .ok draft ∧ draft.Merges l)
    ∨ ∃ before d after, ∃ draft : Draft, ∃ e : Definition,
      l = before ++ .define d :: after ∧ draft.Merges before
      ∧ (¬∀ s ∈ before, MayFollow s (.define d)) ∧ draft.get? d.name = some e
      ∧ l.foldlM add initial = .error (.duplicate d.name e.location d.location) := by
  induction l using List.reverseRecOn with
  | nil => exact .inl ⟨.nil, initial, rfl, merges_initial⟩
  | append_singleton l s ih =>
    have hEarlier : ∀ s ∈ l, s.IsUser := fun s hs => hUsers s (List.mem_append_left _ hs)
    rcases ih hEarlier with ⟨hPairwise, draft, hRead, hMerges⟩
      | ⟨before, d, after, draft, e, rfl, hMerges, hNot, hGet, hError⟩
    · have hNext : (l ++ [s]).foldlM add initial = draft.add s := by
        rw [List.foldlM_append, hRead]
        exact bind_pure (draft.add s)
      have hSplit : (∀ t ∈ l, MayFollow t s) → (l ++ [s]).Pairwise MayFollow := by
        simp [List.pairwise_append, hPairwise]
      cases s with
      | roots r =>
        exact .inl ⟨hSplit fun t _ => Statement.mayFollow_of_ne (by simp), _, hNext,
          hMerges.congr rfl rfl⟩
      | directive =>
        exact .inl ⟨hSplit fun t _ => Statement.mayFollow_of_ne (by simp), _, hNext,
          hMerges.congr rfl rfl⟩
      | extend d =>
        exact .inl ⟨hSplit fun t _ => Statement.mayFollow_of_ne (by simp), _, hNext,
          hMerges.extend⟩
      | define d =>
        by_cases hFollows : ∀ t ∈ l, MayFollow t (.define d)
        · obtain ⟨draft', hDefine, hMerges'⟩ :=
            hMerges.define (hUsers (.define d) (by simp) d rfl) hFollows
          exact .inl ⟨hSplit hFollows, draft', hNext.trans hDefine, hMerges'⟩
        · obtain ⟨e, hGet, hError⟩ := hMerges.define_eq_error hEarlier hFollows
          exact .inr ⟨l, d, [], draft, e, rfl, hMerges, hFollows, hGet, hNext.trans hError⟩
    · refine .inr ⟨before, d, after ++ [s], draft, e, by simp, hMerges, hNot, hGet, ?_⟩
      rw [List.foldlM_append, hError]
      rfl

theorem Merges.mem_names_iff (h : draft.Merges l) :
    name ∈ draft.names ↔ name ∈ Prelude.names ∨ ∃ s ∈ l, ∃ d, s.block? = some d ∧ d.name = name := by
  rw [Table.mem_names_iff]
  by_cases hName : name ∈ Prelude.names
  · obtain ⟨d, hGet, -⟩ := h.builtin name hName
    simp [hName, hGet]
  · rw [h.own name hName]
    simp only [hName, false_or]
    constructor
    · rintro ⟨d, hMerge⟩
      cases hAbout : about name l with
      | nil => rw [hAbout] at hMerge; cases hMerge
      | cons first more =>
        obtain ⟨⟨s, hs, hBlock⟩, hSame⟩ := Statement.mem_about_iff.1
          (show first ∈ about name l from hAbout ▸ List.mem_cons_self)
        exact ⟨s, hs, first, hBlock, hSame⟩
    · rintro ⟨s, hs, d, hBlock, hSame⟩
      have hMem : d ∈ about name l := Statement.mem_about_iff.2 ⟨⟨s, hs, hBlock⟩, hSame⟩
      cases hAbout : about name l with
      | nil => rw [hAbout] at hMem; cases hMem
      | cons first more => exact ⟨_, rfl⟩

/-! ### Roots -/

/-- The roots were named by one of the statements. -/
def RootsFrom (l : List Statement) (draft : Draft) : Prop :=
  ∀ name ∈ draft.roots.named, ∃ r, .roots r ∈ l ∧ name ∈ r.named

theorem mem_named_setRoots {r : Roots} (h : name ∈ (draft.setRoots r).roots.named) :
    name ∈ r.named ∨ name ∈ draft.roots.named := by
  obtain ⟨query, mutation, subscription⟩ := r
  cases query <;> cases mutation <;> cases subscription <;>
    simp_all [setRoots, Roots.named] <;> tauto

theorem RootsFrom.add (h : draft.RootsFrom l) (hs : s ∈ l) (hAdd : draft.add s = .ok draft') :
    draft'.RootsFrom l := by
  cases adds_of_add hAdd with
  | roots r =>
    intro name hName
    rcases mem_named_setRoots hName with hNew | hOld
    · exact ⟨r, hs, hNew⟩
    · exact h name hOld
  | directive => exact h
  | new _ _ => exact h
  | replaced _ _ _ => exact h
  | extended _ => exact h

theorem rootsFrom_of_foldlM (h : l.foldlM add initial = .ok draft) : draft.RootsFrom l :=
  foldlM_invariant (fun _ _ _ hs hRoots => hRoots.add hs) (by simp [RootsFrom, initial, Roots.named]) h

theorem exists_rootOr_eq_ok (draft : Draft) (root usual : String) (named : Option String)
    (h : ∀ name, named = some name → name ∈ draft.names) :
    ∃ name, draft.rootOr root usual named = .ok name := by
  cases named with
  | none => exact ⟨_, rfl⟩
  | some name => exact ⟨some name, if_pos (Table.defines_eq_true_iff.2 (h name rfl))⟩

theorem exists_settleQuery_eq_ok (h : ∀ name, draft.roots.query = some name → name ∈ draft.names) :
    ∃ settled query, draft.settleQuery = .ok (settled, query) := by
  rw [settleQuery]
  split
  · rename_i name hQuery
    exact ⟨draft, name, if_pos (Table.defines_eq_true_iff.2 (h name hQuery))⟩
  · split
    · exact ⟨_, _, rfl⟩
    · exact ⟨_, _, rfl⟩

/-- A draft can be finished if the roots that were named are defined. -/
theorem exists_finish_eq_ok (h : ∀ name ∈ draft.roots.named, name ∈ draft.names) :
    ∃ doc, draft.finish = .ok doc := by
  obtain ⟨settled, query, hSettle⟩ := exists_settleQuery_eq_ok fun name hName =>
    h name (Roots.mem_named_iff.2 (.inl hName))
  have hKept : draft.StaysIn settled ∧ settled.roots = draft.roots := by
    refine ⟨staysIn_of_settleQuery hSettle, ?_⟩
    rcases (settleQuery_eq_ok hSettle).1 with rfl | ⟨hNew, rfl⟩ <;> rfl
  have hSettled : ∀ name ∈ settled.roots.named, name ∈ settled.names :=
    fun name hName => hKept.1.subset (h name (hKept.2 ▸ hName))
  obtain ⟨mutation, hMutation⟩ := exists_rootOr_eq_ok settled "mutation" "Mutation"
    settled.roots.mutation fun name hName =>
    hSettled name (Roots.mem_named_iff.2 (.inr (.inl hName)))
  obtain ⟨subscription, hSubscription⟩ := exists_rootOr_eq_ok settled "subscription" "Subscription"
    settled.roots.subscription fun name hName =>
    hSettled name (Roots.mem_named_iff.2 (.inr (.inr hName)))
  refine ⟨⟨settled.toTable, query, mutation, subscription⟩, ?_⟩
  rw [finish, hSettle]
  simp only [bind, Except.bind, hMutation, hSubscription]
  rfl

/-- What is defined stays defined in the finished document. -/
theorem get?_of_finish (h : draft.finish = .ok doc) (hGet : draft.get? name = some d) :
    doc.get? name = some d := by
  obtain ⟨settled, hSettle, hSame, -, -⟩ := finish_eq_ok h
  rw [Document.get?, ← hSame]
  rcases (settleQuery_eq_ok hSettle).1 with rfl | ⟨hNew, rfl⟩
  · exact hGet
  · exact (get?_append hNew).trans (by rw [hGet, Option.some_or])

end Draft

/-! ### Sources in which every type has at most one plain definition -/

namespace Statement

variable {l : List Statement} {b d : Definition}

/-- No plain definition stands after an extension of its type, built-in types aside. -/
def DefinesFirst (l : List Statement) : Prop :=
  l.Pairwise fun s t => ∀ x d, s = .extend x → t = .define d → x.name = d.name →
    d.name ∈ Prelude.names

/-- Every type has at most one plain definition. -/
def DefinesOnce (l : List Statement) : Prop := ((l.filterMap plain?).map (·.name)).Nodup

instance (l : List Statement) : Decidable (DefinesOnce l) :=
  inferInstanceAs (Decidable (List.Nodup _))

theorem definesOnce_iff :
    DefinesOnce l ↔ l.Pairwise fun s t => ∀ b d, s = .define b → t = .define d → b.name ≠ d.name := by
  rw [DefinesOnce, List.Nodup, List.pairwise_map, List.pairwise_filterMap]
  simp only [plain?_eq_some_iff]
  exact List.Pairwise.iff fun s t => ⟨fun h b d hb hd => h b hb d hd, fun h b hb d hd => h b d hb hd⟩

theorem DefinesOnce.ne_of_append {before after : List Statement}
    (h : DefinesOnce (before ++ .define d :: after)) (hb : .define b ∈ before) :
    b.name ≠ d.name :=
  (List.pairwise_append.1 (definesOnce_iff.1 h)).2.2 _ hb _ List.mem_cons_self b d rfl rfl

theorem pairwise_mayFollow_iff (hOnce : DefinesOnce l) : l.Pairwise MayFollow ↔ DefinesFirst l := by
  constructor
  · intro h
    refine h.imp fun hFollows x d hx hd hSame => ?_
    subst hx
    exact (hFollows x d rfl hd hSame).1
  · intro h
    refine (h.and (definesOnce_iff.1 hOnce)).imp ?_
    rintro s t ⟨hFirst, hApart⟩ b d hb hd hSame
    rcases block?_cases hb with rfl | rfl
    · exact absurd hSame (hApart b d rfl hd)
    · exact ⟨hFirst b d rfl hd hSame, rfl⟩

end Statement

namespace Draft

open Statement (MayFollow DefinesOnce about extensionsOf)

variable {draft : Draft} {d : Definition} {l : List Statement} {doc : Document}

theorem Merges.isMerged (h : draft.Merges l) (hFollows : l.Pairwise MayFollow)
    (hFinish : draft.finish = .ok doc) (hd : .define d ∈ l) (hName : d.name ∉ Prelude.names) :
    ∃ e, doc.get? d.name = some e ∧ d.IsMerged (extensionsOf d.name l) e := by
  have hGet := h.own d.name hName
  rw [Statement.about_eq_cons hFollows hd hName] at hGet
  exact ⟨_, get?_of_finish hFinish hGet, Definition.isMerged_foldl_extend _ d⟩

theorem exists_finish_of_pairwise (hUsers : ∀ s ∈ l, s.IsUser) (hFollows : l.Pairwise MayFollow)
    (hRoots : ∀ r, .roots r ∈ l → ∀ name ∈ r.named,
      name ∈ Prelude.names ∨ ∃ s ∈ l, ∃ d, s.block? = some d ∧ d.name = name) :
    ∃ draft doc, l.foldlM add initial = .ok draft ∧ draft.Merges l ∧ draft.finish = .ok doc := by
  rcases foldlM_add_cases hUsers with ⟨-, draft, hRead, hMerges⟩
    | ⟨before, d, after, -, -, rfl, -, hNot, -, -⟩
  · have hDefined : ∀ name ∈ draft.roots.named, name ∈ draft.names := by
      intro name hName
      obtain ⟨r, hr, hNamed⟩ := rootsFrom_of_foldlM hRead name hName
      exact hMerges.mem_names_iff.2 (hRoots r hr name hNamed)
    obtain ⟨doc, hFinish⟩ := exists_finish_eq_ok hDefined
    exact ⟨draft, doc, hRead, hMerges, hFinish⟩
  · exact absurd (fun s hs => (List.pairwise_append.1 hFollows).2.2 s hs _ List.mem_cons_self) hNot

/-- A plain definition that is refused stands after an extension of its type. -/
theorem exists_extension_of_not_pairwise (hUsers : ∀ s ∈ l, s.IsUser) (hOnce : DefinesOnce l)
    (hFollows : ¬l.Pairwise MayFollow) :
    ∃ x d, .extend x ∈ l ∧ .define d ∈ l ∧ x.name = d.name ∧ d.name ∉ Prelude.names
      ∧ l.foldlM add initial = .error (.duplicate d.name x.location d.location) := by
  rcases foldlM_add_cases hUsers with ⟨hPairwise, -⟩
    | ⟨before, d, after, draft, e, rfl, hMerges, hNot, hGet, hError⟩
  · exact absurd hPairwise hFollows
  · have hExtends : ∀ s ∈ before, ∀ b, s.block? = some b → b.name = d.name → s = .extend b := by
      intro s hs b hBlock hSame
      rcases Statement.block?_cases hBlock with rfl | rfl
      · exact absurd hSame (hOnce.ne_of_append hs)
      · rfl
    simp only [MayFollow, not_forall] at hNot
    obtain ⟨s, hs, b, d', hBlock, hd, hSame, hNot⟩ := hNot
    cases hd
    have hExtend := hExtends s hs b hBlock hSame
    have hName : d.name ∉ Prelude.names := fun hIn => hNot ⟨hIn, by rw [hExtend]; rfl⟩
    cases hAbout : about d.name before with
    | nil =>
      have hMem : b ∈ about d.name before := Statement.mem_about_iff.2 ⟨⟨s, hs, hBlock⟩, hSame⟩
      rw [hAbout] at hMem
      cases hMem
    | cons x more =>
      obtain ⟨⟨s', hs', hFirst⟩, hx⟩ := Statement.mem_about_iff.1
        (show x ∈ about d.name before from hAbout ▸ List.mem_cons_self)
      have hPlace : e.location = x.location := by
        rw [hMerges.own _ hName, hAbout] at hGet
        rw [← Option.some.inj hGet, (Definition.foldl_extend_frame more x).1]
      refine ⟨x, d, ?_, by simp, hx, hName, hPlace ▸ hError⟩
      exact List.mem_append_left _ (hExtends s' hs' x hFirst hx ▸ hs')

end Draft

namespace Document

open Statement (DefinesFirst DefinesOnce extensionsOf)

variable {sources : List Source} {parts : List (List Statement)}

theorem ReadAs.isUser (h : ReadAs sources parts) : ∀ s ∈ parts.flatten, s.IsUser := by
  induction h with
  | nil => simp
  | cons hRead _ ih =>
    intro s hs
    rcases List.mem_append.1 hs with hs | hs
    · exact Statement.builtin_of_mem_readAll? hRead s hs
    · exact ih s hs

/-- **Extensions merge if the plain definition comes first, and only then.**  Sources are given in
which every type has at most one plain definition and every root that a block names is defined.
They are loaded if and only if no plain definition stands after an extension of its type, built-in
types aside.  A type then has all that its plain definition and its extensions have, in the order in
which they are read.  Otherwise a type is said to be defined twice, and the first place that is
shown is that of an extension. -/
theorem merges_iff_definition_first (hRead : ReadAs sources parts)
    (hOnce : DefinesOnce parts.flatten)
    (hRoots : ∀ r, .roots r ∈ parts.flatten → ∀ name ∈ r.named,
      name ∈ Prelude.names ∨ ∃ s ∈ parts.flatten, ∃ d, s.block? = some d ∧ d.name = name) :
    ((∃ doc, load sources = .ok doc) ↔ DefinesFirst parts.flatten)
    ∧ (∀ doc, load sources = .ok doc → ∀ d, .define d ∈ parts.flatten → d.name ∉ Prelude.names →
      ∃ e, doc.get? d.name = some e ∧ d.IsMerged (extensionsOf d.name parts.flatten) e)
    ∧ ∀ error, load sources = .error error → ∃ x d, .extend x ∈ parts.flatten
      ∧ .define d ∈ parts.flatten ∧ x.name = d.name ∧ d.name ∉ Prelude.names
      ∧ error = .duplicate d.name x.location d.location := by
  have hLoad : load sources = parts.flatten.foldlM Draft.add Draft.initial >>= Draft.finish :=
    congrArg (· >>= Draft.finish) (hRead.foldlM_addSource _)
  rw [hLoad, ← Statement.pairwise_mayFollow_iff hOnce]
  by_cases hFollows : parts.flatten.Pairwise Statement.MayFollow
  · obtain ⟨draft, doc, hDraft, hMerges, hFinish⟩ :=
      Draft.exists_finish_of_pairwise hRead.isUser hFollows hRoots
    rw [hDraft]
    change ((∃ doc, draft.finish = .ok doc) ↔ _) ∧ (∀ doc, draft.finish = .ok doc → _)
      ∧ ∀ error, draft.finish = .error error → _
    rw [hFinish]
    refine ⟨⟨fun _ => hFollows, fun _ => ⟨doc, rfl⟩⟩, ?_, by simp⟩
    rintro _ ⟨⟩ d hd hName
    exact hMerges.isMerged hFollows hFinish hd hName
  · obtain ⟨x, d, hx, hd, hSame, hName, hError⟩ :=
      Draft.exists_extension_of_not_pairwise hRead.isUser hOnce hFollows
    rw [hError]
    refine ⟨⟨by rintro ⟨doc, ⟨⟩⟩, fun h => absurd h hFollows⟩, by rintro doc ⟨⟩, ?_⟩
    rintro error ⟨⟩
    exact ⟨x, d, hx, hd, hSame, hName, rfl⟩

end Document

end Schema

/-! ### An extension after its definition, and one before it -/

namespace Sample

open Schema (Statement Document)

def splitParts : List (List Statement) := splitStatements.map fun e => [e.2]

theorem readAs_split : Document.ReadAs splitSources splitParts :=
  Document.readAs_of_readAll? readAll?_split

def earlyExtension : Schema.Definition :=
  { Schema.Definition.emptyObject "A" ⟨"a.graphql", 1⟩ with
    fields := [splitField "b"], builtin := false }

def lateDefinition : Schema.Definition :=
  { Schema.Definition.emptyObject "A" ⟨"b.graphql", 1⟩ with
    fields := [splitField "a"], builtin := false }

def earlySources : List Schema.Source :=
  [⟨"a.graphql", "extend type A\x7bb:Int\x7d"⟩, ⟨"b.graphql", "type A\x7ba:Int\x7d"⟩]

def earlyParts : List (List Statement) := [[.extend earlyExtension], [.define lateDefinition]]

theorem readAs_early : Document.ReadAs earlySources earlyParts :=
  .cons (by cbv) (.cons (by cbv) .nil)

end Sample

namespace Schema.Document

open Statement (DefinesFirst DefinesOnce)

/-- The query root of the sample is loaded with what its extension adds. -/
theorem split_is_merged :
    ReadAs Sample.splitSources Sample.splitParts ∧ DefinesOnce Sample.splitParts.flatten
    ∧ ∃ doc e, load Sample.splitSources = .ok doc ∧ doc.get? "Root" = some e
      ∧ e.fields = [Sample.splitField "a", Sample.splitField "b"] ∧ e.implements = ["Node"] := by
  have hOnce : DefinesOnce Sample.splitParts.flatten := by decide
  have hRoots : ∀ r, .roots r ∈ Sample.splitParts.flatten → ∀ name ∈ r.named,
      name ∈ Prelude.names ∨ ∃ s ∈ Sample.splitParts.flatten, ∃ d,
        s.block? = some d ∧ d.name = name := by
    intro r hr name hName
    have hRoot : r = { query := some "Root" } := by
      simpa [Sample.splitParts, Sample.splitStatements] using hr
    subst hRoot
    have hSame : name = "Root" := by simpa [Roots.named] using hName
    subst hSame
    exact .inr ⟨.define Sample.splitRoot, by simp [Sample.splitParts, Sample.splitStatements],
      Sample.splitRoot, rfl, rfl⟩
  have hFirst : DefinesFirst Sample.splitParts.flatten := by
    have hApart : Sample.splitExtension.name ≠ Sample.splitNode.name := by decide
    simp [DefinesFirst, Sample.splitParts, Sample.splitStatements, hApart]
  obtain ⟨hLoads, hMerged, -⟩ := merges_iff_definition_first Sample.readAs_split hOnce hRoots
  obtain ⟨doc, hLoad⟩ := hLoads.2 hFirst
  obtain ⟨e, hGet, hFields⟩ := hMerged doc hLoad Sample.splitRoot
    (by simp [Sample.splitParts, Sample.splitStatements]) (by decide)
  exact ⟨Sample.readAs_split, hOnce, doc, e, hLoad, hGet, hFields.fields, hFields.implements⟩

/-- **An extension that comes first is refused.**  The type has one plain definition and one
extension, and it is loaded if they come the other way round. -/
theorem extension_ahead_is_refused :
    ReadAs Sample.earlySources Sample.earlyParts ∧ DefinesOnce Sample.earlyParts.flatten
    ∧ (∀ r, .roots r ∉ Sample.earlyParts.flatten)
    ∧ load Sample.earlySources = .error (.duplicate "A" ⟨"a.graphql", 1⟩ ⟨"b.graphql", 1⟩)
    ∧ ∃ doc, load Sample.earlySources.reverse = .ok doc := by
  refine ⟨Sample.readAs_early, by decide, by simp [Sample.earlyParts], ?_, ?_⟩
  · rw [load, Sample.readAs_early.foldlM_addSource]
    rfl
  · have hRead : ReadAs Sample.earlySources.reverse Sample.earlyParts.reverse :=
      List.rel_reverse Sample.readAs_early
    rw [load, hRead.foldlM_addSource]
    exact ⟨_, rfl⟩

end Schema.Document

end ResolverScaffold
